import ReleaseRules.Number.Binary64

/-!
Contract: number literals that several formats share.

Owns:
- digits in any radix up to sixteen, read as one natural number;
- decimal literals with an optional point and an optional exponent.

Does not own: signs in front of a literal and limits on its size.
-/

namespace ReleaseRules.Number

/-- Value of a digit of either case in the given radix. -/
def radixDigit? (radix : Nat) (character : Char) : Option Nat :=
  let value :=
    if '0' ≤ character ∧ character ≤ '9' then character.toNat - 48
    else if 'a' ≤ character ∧ character ≤ 'f' then character.toNat - 87
    else if 'A' ≤ character ∧ character ≤ 'F' then character.toNat - 55
    else radix
  if value < radix then some value else none

/-- Read digits after the value of the digits before them. -/
def readDigits? (radix value : Nat) : List Char → Option Nat
  | [] => some value
  | character :: rest =>
      match radixDigit? radix character with
      | some digit => readDigits? radix (radix * value + digit) rest
      | none => none

/-- The natural number that a non-empty run of digits denotes. -/
def natural? (radix : Nat) (digits : List Char) : Option Nat :=
  if digits.isEmpty then none else readDigits? radix 0 digits

/-- Whether a character is one of the ten ASCII digits. -/
def isDecimalDigit (character : Char) : Bool := '0' ≤ character && character ≤ '9'

/-- The exponent part of a decimal literal, with or without its sign; nothing may follow. -/
def exponent? (text : List Char) : Option Int :=
  match text with
  | '-' :: digits => (natural? 10 digits).map fun value => -(value : Int)
  | '+' :: digits => (natural? 10 digits).map fun value => (value : Int)
  | digits => (natural? 10 digits).map fun value => (value : Int)

/-- An unsigned decimal literal: digits on at least one side of an optional point, and an
optional exponent. -/
def decimalLiteral? (negative : Bool) (text : List Char) : Option Floating :=
  let whole := text.takeWhile isDecimalDigit
  let afterWhole := text.dropWhile isDecimalDigit
  let parts : List Char × List Char :=
    match afterWhole with
    | '.' :: rest => (rest.takeWhile isDecimalDigit, rest.dropWhile isDecimalDigit)
    | rest => ([], rest)
  let exponent : Option Int :=
    match parts.2 with
    | [] => some 0
    | mark :: rest => if mark = 'e' ∨ mark = 'E' then exponent? rest else none
  match exponent with
  | none => none
  | some exponent =>
      (natural? 10 (whole ++ parts.1)).map fun significand =>
        Floating.ofDecimal negative significand (exponent - parts.1.length)

end ReleaseRules.Number
