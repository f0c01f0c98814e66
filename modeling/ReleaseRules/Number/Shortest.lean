import ReleaseRules.Number.Binary64

/-!
Contract: the shortest decimal text that reads back as a given number.

Owns:
- the interval of quotients that round to a number, and the search for the fewest digits;
- the two written forms, positional and with an exponent.

Does not own: the texts of infinities and of undefined numbers.
-/

namespace ReleaseRules.Number

/-- Decimal digits without trailing zeros and the exponent of the last digit. -/
structure DecimalDigits where
  significand : Nat
  exponent : Int
deriving DecidableEq, Repr

/-- The quotients around a positive number that round to it, over one denominator:
lower end, the number itself, upper end, and whether the ends belong to it. -/
structure RoundingInterval where
  lower : Nat
  middle : Nat
  upper : Nat
  denominator : Nat
  closed : Bool
deriving DecidableEq, Repr

/-- The rounding interval of a positive number. Below a power of two the neighbours are half
as far away. -/
def Binary64.roundingInterval (number : Binary64) : RoundingInterval :=
  let narrow := number.mantissa == twoTo 52 && decide (Binary64.leastExponent < number.exponent)
  let scale := if 0 ≤ number.exponent then twoTo number.exponent.toNat else 1
  let denominator := if 0 ≤ number.exponent then 1 else twoTo (-number.exponent).toNat
  { lower := (4 * number.mantissa - (if narrow then 1 else 2)) * scale
    middle := 4 * number.mantissa * scale
    upper := (4 * number.mantissa + 2) * scale
    denominator := 4 * denominator
    closed := number.mantissa % 2 == 0 }

namespace RoundingInterval

/-- Whether `significand · 10 ^ exponent` lies in the interval. -/
def admits (interval : RoundingInterval) (significand : Nat) (exponent : Int) : Bool :=
  let value := if 0 ≤ exponent then significand * tenTo exponent.toNat else significand
  let scale := if 0 ≤ exponent then 1 else tenTo (-exponent).toNat
  let scaled := value * interval.denominator
  if interval.closed then
    decide (interval.lower * scale ≤ scaled) && decide (scaled ≤ interval.upper * scale)
  else decide (interval.lower * scale < scaled) && decide (scaled < interval.upper * scale)

/-- The nearest member of the grid of multiples of `10 ^ exponent` in the interval, if any.
Of the two neighbours of the number the nearer wins; a tie goes to the even one. -/
def onGrid (interval : RoundingInterval) (exponent : Int) : Option Nat :=
  let numerator :=
    if 0 ≤ exponent then interval.middle else interval.middle * tenTo (-exponent).toNat
  let denominator :=
    if 0 ≤ exponent then interval.denominator * tenTo exponent.toNat else interval.denominator
  let below := numerator / denominator
  let remainder := numerator % denominator
  let nearerBelow :=
    decide (2 * remainder < denominator) || (2 * remainder == denominator && below % 2 == 0)
  let belowFits := interval.admits below exponent && below != 0
  let aboveFits := interval.admits (below + 1) exponent
  if belowFits && (nearerBelow || !aboveFits) then some below
  else if aboveFits then some (below + 1)
  else none

/-- Search grids from `exponent` downwards; `remaining` bounds the number of grids. -/
def search (interval : RoundingInterval) : Nat → Int → DecimalDigits
  | 0, exponent => ⟨0, exponent⟩
  | remaining + 1, exponent =>
      match interval.onGrid exponent with
      | some significand => ⟨significand, exponent⟩
      | none => search interval remaining (exponent - 1)

end RoundingInterval

/-- An upper bound for the decimal exponent of the leading digit of a positive number. -/
def Binary64.decimalMagnitude (number : Binary64) : Int :=
  let bits : Int := (Nat.log2 number.mantissa : Int) + number.exponent + 1
  if 0 ≤ bits then bits * 30103 / 100000 + 1 else -(-bits * 30102 / 100000) + 1

/-- The fewest digits that read back as the number, the nearest of those to it. -/
def Binary64.shortestDigits (number : Binary64) : DecimalDigits :=
  if number.mantissa = 0 then ⟨0, 0⟩
  else number.roundingInterval.search 24 number.decimalMagnitude

/-- How a format writes numbers: the sign before a positive exponent. -/
structure FloatNotation where
  positiveExponent : String
deriving DecidableEq, Repr

/-- The digits of a natural number. -/
def digitsOf (value : Nat) : List Char := Nat.toDigits 10 value

/-- An integer in decimal. -/
def integerText (value : Int) : List Char :=
  if value < 0 then '-' :: digitsOf value.natAbs else digitsOf value.natAbs

/-- Positive digits in the given notation. With `point` the position of the decimal point
relative to the first digit, the text is positional for `-5 < point ≤ 16` and has an exponent
otherwise. -/
def DecimalDigits.text (floatNotation : FloatNotation) (digits : DecimalDigits) : List Char :=
  let shown := digitsOf digits.significand
  let point : Int := shown.length + digits.exponent
  if 0 ≤ digits.exponent ∧ point ≤ 16 then
    shown ++ List.replicate digits.exponent.toNat '0' ++ ['.', '0']
  else if 0 < point ∧ point ≤ 16 then
    shown.take point.toNat ++ '.' :: shown.drop point.toNat
  else if -5 < point ∧ point ≤ 0 then
    '0' :: '.' :: (List.replicate (-point).toNat '0' ++ shown)
  else
    let exponent := point - 1
    let mark :=
      'e' :: (if 0 ≤ exponent then floatNotation.positiveExponent.toList else []) ++
        integerText exponent
    match shown with
    | [] => mark
    | [digit] => digit :: mark
    | digit :: rest => digit :: '.' :: rest ++ mark

/-- The shortest text of a number; zeros keep their sign. -/
def Binary64.text (floatNotation : FloatNotation) (number : Binary64) : List Char :=
  let magnitude :=
    if number.mantissa = 0 then ['0', '.', '0']
    else number.shortestDigits.text floatNotation
  if number.negative then '-' :: magnitude else magnitude

end ReleaseRules.Number
