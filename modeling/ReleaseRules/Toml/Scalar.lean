import ReleaseRules.Document.Datum
import ReleaseRules.Number.Literal
import ReleaseRules.Number.Shortest

/-!
Contract: the scalars of TOML documents that are not strings.

Owns:
- truth values, integers in four radixes and floating-point numbers;
- dates and times, which are kept as normalised texts.

Does not own: where scalars end.
-/

namespace ReleaseRules.Toml

open Number (Floating decimalLiteral? natural? radixDigit? isDecimalDigit digitsOf)

/-- Digits of a radix with underscores between them, without the underscores. -/
def groupedDigits? (radix : Nat) : List Char → Option (List Char)
  | [] => none
  | [digit] => if (radixDigit? radix digit).isSome then some [digit] else none
  | digit :: '_' :: rest =>
      if (radixDigit? radix digit).isSome then (groupedDigits? radix rest).map (digit :: ·)
      else none
  | digit :: rest =>
      if (radixDigit? radix digit).isSome then (groupedDigits? radix rest).map (digit :: ·)
      else none

/-- Decimal digits without a zero in front of others. -/
def plainDigits? (text : List Char) : Option (List Char) :=
  match text with
  | '0' :: _ :: _ => none
  | _ => groupedDigits? 10 text

/-- A sign in front of a number. -/
def splitSign : List Char → Bool × List Char
  | '-' :: rest => (true, rest)
  | '+' :: rest => (false, rest)
  | text => (false, text)

/-- An integer. -/
def integer? (text : List Char) : Option Int :=
  match text with
  | '0' :: 'x' :: digits =>
      ((groupedDigits? 16 digits).bind (natural? 16)).map fun value => (value : Int)
  | '0' :: 'o' :: digits =>
      ((groupedDigits? 8 digits).bind (natural? 8)).map fun value => (value : Int)
  | '0' :: 'b' :: digits =>
      ((groupedDigits? 2 digits).bind (natural? 2)).map fun value => (value : Int)
  | _ =>
      let (negative, digits) := splitSign text
      ((plainDigits? digits).bind (natural? 10)).map fun value =>
        if negative then -(value : Int) else value

/-- The exponent behind its mark, with its sign and without underscores. -/
def exponentText? (text : List Char) : Option (List Char) :=
  match text with
  | '-' :: digits => (groupedDigits? 10 digits).map ('-' :: ·)
  | '+' :: digits => groupedDigits? 10 digits
  | digits => groupedDigits? 10 digits

/-- Whether a character is the mark of an exponent. -/
def isExponentMark (character : Char) : Bool := character = 'e' || character = 'E'

/-- The parts of a decimal literal: digits before the point, digits behind it if there is one,
and the exponent if there is one. -/
def decimalParts (text : List Char) :
    List Char × Option (List Char) × Option (List Char) :=
  let mantissa := text.takeWhile fun character => !isExponentMark character
  let exponent :=
    match text.dropWhile fun character => !isExponentMark character with
    | _ :: rest => some rest
    | [] => none
  match mantissa.dropWhile (· != '.') with
  | _ :: fraction => (mantissa.takeWhile (· != '.'), some fraction, exponent)
  | [] => (mantissa, none, exponent)

/-- A part that may be missing, but has to be well-formed. -/
def optionalPart? (read : List Char → Option (List Char)) :
    Option (List Char) → Option (Option (List Char))
  | none => some none
  | some text => (read text).map some

/-- A floating-point number. -/
def floating? (text : List Char) : Option Floating :=
  let (negative, magnitude) := splitSign text
  if magnitude = "inf".toList then some (.infinity negative)
  else if magnitude = "nan".toList then some .notANumber
  else do
    let (whole, fraction, exponent) := decimalParts magnitude
    let whole ← plainDigits? whole
    let fraction ← optionalPart? (groupedDigits? 10) fraction
    let exponent ← optionalPart? exponentText? exponent
    if fraction.isNone && exponent.isNone then none
    else
      let literal :=
        whole ++ ((fraction.map ('.' :: ·)).getD []) ++ ((exponent.map ('e' :: ·)).getD [])
      match ← decimalLiteral? negative literal with
      | .finite value => return .finite value
      | _ => none

/-- Exactly so many digits at the start of a text, and the text behind them. -/
def fixedDigits? (count : Nat) (text : List Char) : Option (Nat × List Char) :=
  if text.length < count then none
  else (natural? 10 (text.take count)).map (·, text.drop count)

/-- The days of a month. -/
def daysOf (year month : Nat) : Nat :=
  let leap := (year % 4 = 0 ∧ year % 100 ≠ 0) ∨ year % 400 = 0
  if month = 2 then (if leap then 29 else 28)
  else if month = 4 ∨ month = 6 ∨ month = 9 ∨ month = 11 then 30
  else 31

/-- A number with a zero in front if it has one digit. -/
def twoDigits (value : Nat) : List Char :=
  if value < 10 then '0' :: digitsOf value else digitsOf value

/-- A date at the start of a text, and the text behind it. -/
def date? (text : List Char) : Option (List Char × List Char) := do
  let (year, rest) ← fixedDigits? 4 text
  match rest with
  | '-' :: rest =>
      let (month, rest) ← fixedDigits? 2 rest
      match rest with
      | '-' :: rest =>
          let (day, rest) ← fixedDigits? 2 rest
          if 1 ≤ month ∧ month ≤ 12 ∧ 1 ≤ day ∧ day ≤ daysOf year month then
            return (text.take 10, rest)
          else none
      | _ => none
  | _ => none

/-- The digits behind the point of a second: at most nine, without zeros at the end. -/
def fractionText (digits : List Char) : List Char :=
  let shown := ((digits.take 9).reverse.dropWhile (· = '0')).reverse
  '.' :: (if shown.isEmpty then ['0'] else shown)

/-- A second with an optional fraction behind its colon. -/
def second? (text : List Char) : Option (List Char × List Char) := do
  let (second, rest) ← fixedDigits? 2 text
  if 60 < second then none
  else
    match rest with
    | '.' :: rest =>
        let digits := rest.takeWhile isDecimalDigit
        if digits.isEmpty then none
        else
          return (':' :: (twoDigits second ++ fractionText digits), rest.drop digits.length)
    | rest => return (':' :: twoDigits second, rest)

/-- A time at the start of a text, and the text behind it. Seconds may be missing. -/
def time? (text : List Char) : Option (List Char × List Char) := do
  let (hour, rest) ← fixedDigits? 2 text
  match rest with
  | ':' :: rest =>
      let (minute, rest) ← fixedDigits? 2 rest
      if 23 < hour ∨ 59 < minute then none
      else
        let shown := twoDigits hour ++ ':' :: twoDigits minute
        match rest with
        | ':' :: rest =>
            let (second, rest) ← second? rest
            return (shown ++ second, rest)
        | rest => return (shown, rest)
  | _ => none

/-- The offset from universal time that ends a text, or nothing. -/
def offset? (text : List Char) : Option (List Char) :=
  match text with
  | [] => some []
  | ['Z'] => some ['Z']
  | ['z'] => some ['Z']
  | sign :: rest =>
      if sign = '+' ∨ sign = '-' then do
        let (hour, rest) ← fixedDigits? 2 rest
        match rest with
        | ':' :: rest =>
            let (minute, rest) ← fixedDigits? 2 rest
            let minutes := 60 * hour + minute
            if rest.isEmpty && decide (minute ≤ 59) && decide (minutes ≤ 1440) then
              return (if minutes = 0 then '+' else sign) ::
                (twoDigits hour ++ ':' :: twoDigits minute)
            else none
        | _ => none
      else none

/-- Whether a character separates a date from a time. -/
def isTimeMark (character : Char) : Bool :=
  character = 'T' || character = 't' || character = ' '

/-- A date, a time or both, in normalised form. -/
def moment? (text : List Char) : Option (List Char) :=
  match date? text with
  | some (date, []) => some date
  | some (date, mark :: rest) =>
      if isTimeMark mark then do
        let (time, rest) ← time? rest
        return date ++ 'T' :: (time ++ (← offset? rest))
      else none
  | none =>
      match time? text with
      | some (time, []) => some time
      | _ => none

/-- The key under which a moment is kept as data. -/
def momentKey : String := "$__toml_private_datetime"

/-- The data of a scalar. -/
def scalar? (text : List Char) : Option Datum :=
  if text = "true".toList then some (.bool true)
  else if text = "false".toList then some (.bool false)
  else
    match integer? text with
    | some value => some (.integer value)
    | none =>
        match floating? text with
        | some value => some (.floating value)
        | none =>
            (moment? text).map fun moment =>
              .record [(.text momentKey, .text (String.ofList moment))]

end ReleaseRules.Toml
