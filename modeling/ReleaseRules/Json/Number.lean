import ReleaseRules.Document.Datum

/-!
Contract: the number literals of JSON.

Owns:
- the grammar of number literals;
- their values: exact integers of 64 bits, and floating-point numbers computed from at most
  64 bits of leading digits by one multiplication or division.

Does not own: the text of numbers.
-/

namespace ReleaseRules.Json

open ReleaseRules.Number (Binary64 Floating)

/-- Reasons why a text is not JSON. -/
inductive ReadError where
  | unexpectedEnd
  | unexpectedCharacter (character : Char)
  | invalidNumber
  | numberOutOfRange
  | invalidEscape
  | loneSurrogate
  | controlCharacter
  | nestingTooDeep
  | trailingCharacters
deriving DecidableEq, Repr

/-- Whether a character is one of the ten ASCII digits. -/
def isDigit (character : Char) : Bool := '0' ≤ character && character ≤ '9'

/-- Value of an ASCII digit. -/
def digitValue (character : Char) : Nat := character.toNat - 48

/-- Bound of the leading digits that are kept. -/
def significandBound : Nat := 18446744073709551616

/-- Leading digits read so far, with the count of digits that no longer fit. -/
structure LeadingDigits where
  significand : Nat
  full : Bool
  dropped : Nat
  kept : Nat
deriving DecidableEq, Repr

/-- Take one more digit; once a digit does not fit, it and all later ones are dropped. -/
def LeadingDigits.take (digits : LeadingDigits) (character : Char) : LeadingDigits :=
  let next := 10 * digits.significand + digitValue character
  if digits.full || decide (significandBound ≤ next) then
    { digits with full := true, dropped := digits.dropped + 1 }
  else { digits with significand := next, kept := digits.kept + 1 }

/-- Take digits after `digits`. -/
def LeadingDigits.takeAll (digits : LeadingDigits) (characters : List Char) : LeadingDigits :=
  characters.foldl LeadingDigits.take digits

/-- Greatest exponent in the table of powers of ten. -/
def greatestPower : Nat := 308

/-- Repeated scaling with a step that takes the greatest power of the table off, until the
exponent is in the table. A number below every positive one is zero, and one beyond the largest is
an error. -/
def scaleBy (step : Binary64 → Option Binary64) (number : Binary64) :
    Nat → Int → Except ReadError Binary64
  | 0, _ => .ok (Binary64.zero false)
  | steps + 1, exponent =>
      if exponent.natAbs ≤ greatestPower then
        match Binary64.powerOfTen exponent.natAbs with
        | none => .error .numberOutOfRange
        | some power =>
            let scaled :=
              if 0 ≤ exponent then number.multiply power else number.divide power
            match scaled with
            | some result => .ok result
            | none => .error .numberOutOfRange
      else if number.mantissa = 0 then .ok number
      else if 0 ≤ exponent then .error .numberOutOfRange
      else
        match step number with
        | some smaller => scaleBy step smaller steps (exponent + greatestPower)
        | none => .error .numberOutOfRange

/-- A number times a power of ten. -/
def scale : Binary64 → Nat → Int → Except ReadError Binary64 :=
  scaleBy fun number => (Binary64.powerOfTen greatestPower).bind number.divide

/-- The floating-point number `± significand · 10 ^ exponent`. -/
def floatingOf (negative : Bool) (significand : Nat) (exponent : Int) :
    Except ReadError Binary64 :=
  match Binary64.ofNat significand with
  | none => .error .numberOutOfRange
  | some number => do
      let scaled ← scale number 4 exponent
      return if negative then scaled.negate else scaled

/-- Value of the exponent part after its letter: sign and digits. An exponent beyond 32 bits
is settled by the significand and the sign alone. -/
def withExponent (negative : Bool) (significand : Nat) (exponent : Int) (text : List Char) :
    Except ReadError (Binary64 × List Char) :=
  let signed : Bool × List Char :=
    match text with
    | '+' :: rest => (false, rest)
    | '-' :: rest => (true, rest)
    | rest => (false, rest)
  let digits := signed.2.takeWhile isDigit
  let rest := signed.2.dropWhile isDigit
  if digits.isEmpty then .error .invalidNumber
  else
    let magnitude := digits.foldl (fun value digit => 10 * value + digitValue digit) 0
    if 2147483647 < magnitude then
      if significand ≠ 0 ∧ !signed.1 then .error .numberOutOfRange
      else .ok (Binary64.zero negative, rest)
    else do
      let shifted := if signed.1 then exponent - magnitude else exponent + magnitude
      let value ← floatingOf negative significand shifted
      return (value, rest)

/-- Value of the part of a literal that follows the integer digits. -/
def afterInteger (negative : Bool) (digits : LeadingDigits) (text : List Char) :
    Except ReadError (Datum × List Char) :=
  match text with
  | '.' :: rest => do
      let fraction := rest.takeWhile isDigit
      let rest := rest.dropWhile isDigit
      if fraction.isEmpty then throw .invalidNumber
      let all := LeadingDigits.takeAll { digits with full := false, kept := 0 } fraction
      let exponent : Int := (digits.dropped : Int) - all.kept
      match rest with
      | 'e' :: rest | 'E' :: rest =>
          let (value, rest) ← withExponent negative all.significand exponent rest
          return (.floating (.finite value), rest)
      | rest =>
          let value ← floatingOf negative all.significand exponent
          return (.floating (.finite value), rest)
  | 'e' :: rest | 'E' :: rest => do
      let (value, rest) ← withExponent negative digits.significand digits.dropped rest
      return (.floating (.finite value), rest)
  | rest =>
      if digits.full then do
        let value ← floatingOf negative digits.significand digits.dropped
        return (.floating (.finite value), rest)
      else if !negative then .ok (.integer digits.significand, rest)
      else if digits.significand ≠ 0 ∧ digits.significand ≤ 9223372036854775808 then
        .ok (.integer (-(digits.significand : Int)), rest)
      else do
        let value ← floatingOf true digits.significand 0
        return (.floating (.finite value), rest)

/-- Read a number literal whose minus sign, if any, has been taken. -/
def readNumber (negative : Bool) (text : List Char) : Except ReadError (Datum × List Char) :=
  match text with
  | [] => .error .unexpectedEnd
  | '0' :: rest =>
      match rest with
      | next :: _ =>
          if isDigit next then .error .invalidNumber
          else afterInteger negative ⟨0, false, 0, 1⟩ rest
      | [] => afterInteger negative ⟨0, false, 0, 1⟩ rest
  | first :: _ =>
      if isDigit first then
        afterInteger negative
          (LeadingDigits.takeAll ⟨0, false, 0, 0⟩ (text.takeWhile isDigit))
          (text.dropWhile isDigit)
      else .error .invalidNumber

/-- The text behind the fraction that a text starts with, if it starts with one. -/
def skipFraction : List Char → List Char
  | '.' :: rest => rest.dropWhile isDigit
  | text => text

/-- The text behind the exponent that a text starts with, if it starts with one. -/
def skipExponent : List Char → List Char
  | 'e' :: sign :: rest | 'E' :: sign :: rest =>
      if sign = '+' ∨ sign = '-' then rest.dropWhile isDigit
      else (sign :: rest).dropWhile isDigit
  | text => text

/-- The text behind a number literal that is known to be well-formed. -/
def skipNumber (text : List Char) : List Char :=
  skipExponent (skipFraction (text.dropWhile isDigit))

end ReleaseRules.Json
