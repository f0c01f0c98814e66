/-!
Contract: binary floating-point numbers with 53-bit precision, in exact arithmetic.

Owns:
- powers of two and of ten;
- the type of finite numbers and its zero of either sign;
- rounding of a quotient of natural numbers to the nearest number, ties to even;
- products and quotients by powers of ten, and reading of decimal digits;
- floating-point values that are not finite.

Does not own: the text of numbers.
-/

namespace ReleaseRules.Number

/-- A power of two. -/
def twoTo (exponent : Nat) : Nat := Nat.pow 2 exponent

/-- A power of ten. -/
def tenTo (exponent : Nat) : Nat := Nat.pow 10 exponent

/-- The finite number `± mantissa · 2 ^ exponent`.

In canonical form the mantissa has 53 bits, or fewer when the exponent is the least one. -/
structure Binary64 where
  negative : Bool
  mantissa : Nat
  exponent : Int
deriving DecidableEq, Repr, Inhabited

namespace Binary64

/-- The least exponent of a canonical number. -/
def leastExponent : Int := -1074

/-- The greatest exponent of a canonical number. -/
def greatestExponent : Int := 971

/-- Zero with the given sign. -/
def zero (negative : Bool) : Binary64 := ⟨negative, 0, leastExponent⟩

/-- Numerical equality, which does not tell the zeros apart. -/
def sameValue (left right : Binary64) : Bool :=
  left == right || (left.mantissa == 0 && right.mantissa == 0)

/-- The same number with the other sign. -/
def negate (number : Binary64) : Binary64 := { number with negative := !number.negative }

/-- The quotient `numerator / (denominator · 2 ^ exponent)` as numerator and denominator. -/
def scaledQuotient (numerator denominator : Nat) (exponent : Int) : Nat × Nat :=
  if 0 ≤ exponent then (numerator, denominator * twoTo exponent.toNat)
  else (numerator * twoTo (-exponent).toNat, denominator)

/-- The exponent that gives the quotient a 53-bit integer part, or the least exponent. -/
def quotientExponent (numerator denominator : Nat) : Int :=
  let estimate := (Nat.log2 numerator : Int) - (Nat.log2 denominator : Int) - 53
  let scaled := scaledQuotient numerator denominator estimate
  let exponent := if scaled.1 / scaled.2 < twoTo 53 then estimate else estimate + 1
  max exponent leastExponent

/-- Nearest integer to a quotient; a tie goes to the even neighbour. -/
def roundQuotient (numerator denominator : Nat) : Nat :=
  let quotient := numerator / denominator
  let remainder := numerator % denominator
  if denominator < 2 * remainder then quotient + 1
  else if 2 * remainder = denominator ∧ quotient % 2 = 1 then quotient + 1
  else quotient

/-- The number nearest to `± numerator / denominator`, or nothing when it is too large.
The denominator has to be positive. -/
def ofQuotient (negative : Bool) (numerator denominator : Nat) : Option Binary64 :=
  if numerator = 0 then some (zero negative)
  else
    let exponent := quotientExponent numerator denominator
    let scaled := scaledQuotient numerator denominator exponent
    let rounded := roundQuotient scaled.1 scaled.2
    let canonical : Nat × Int :=
      if rounded = twoTo 53 then (twoTo 52, exponent + 1) else (rounded, exponent)
    if greatestExponent < canonical.2 then none
    else some ⟨negative, canonical.1, canonical.2⟩

/-- The number nearest to a natural number. -/
def ofNat (value : Nat) : Option Binary64 := ofQuotient false value 1

/-- The absolute value as numerator and denominator. -/
def toQuotient (number : Binary64) : Nat × Nat :=
  if 0 ≤ number.exponent then (number.mantissa * twoTo number.exponent.toNat, 1)
  else (number.mantissa, twoTo (-number.exponent).toNat)

/-- The rounded product of two numbers. -/
def multiply (left right : Binary64) : Option Binary64 :=
  ofQuotient (left.negative != right.negative)
    (left.toQuotient.1 * right.toQuotient.1) (left.toQuotient.2 * right.toQuotient.2)

/-- The rounded quotient by a number other than zero. -/
def divide (left right : Binary64) : Option Binary64 :=
  ofQuotient (left.negative != right.negative)
    (left.toQuotient.1 * right.toQuotient.2) (left.toQuotient.2 * right.toQuotient.1)

/-- The number nearest to a power of ten. -/
def powerOfTen (exponent : Nat) : Option Binary64 := ofNat (tenTo exponent)

/-- The number nearest to `± significand · 10 ^ exponent`, or nothing when it is too large.
Exponents far outside the range are settled without computing the power. -/
def ofDecimal (negative : Bool) (significand : Nat) (exponent : Int) : Option Binary64 :=
  let digits : Int := Nat.log2 significand / 3 + 1
  if significand = 0 then some (zero negative)
  else if exponent + digits < -400 then some (zero negative)
  else if 400 < exponent then none
  else if 0 ≤ exponent then ofQuotient negative (significand * tenTo exponent.toNat) 1
  else ofQuotient negative significand (tenTo (-exponent).toNat)

end Binary64

/-- A floating-point value: a finite number, an infinity, or no number at all. -/
inductive Floating where
  | finite (value : Binary64)
  | infinity (negative : Bool)
  | notANumber
deriving DecidableEq, Repr, Inhabited

/-- The value of decimal digits; too large a number becomes an infinity. -/
def Floating.ofDecimal (negative : Bool) (significand : Nat) (exponent : Int) : Floating :=
  match Binary64.ofDecimal negative significand exponent with
  | some value => .finite value
  | none => .infinity negative

end ReleaseRules.Number
