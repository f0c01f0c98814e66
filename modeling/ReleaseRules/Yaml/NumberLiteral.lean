import ReleaseRules.Document.Tree
import ReleaseRules.Text.Pieces
import ReleaseRules.Yaml.Cursor
import ReleaseRules.Yaml.Scalar

/-!
Contract: number literals that would not be written back as they stand.

Owns:
- number-like scalars at the ends of lines, behind a colon or the dash of a list item;
- the text that such a number is written back as.

Does not own: what is done about them.
-/

namespace ReleaseRules.Yaml

open Number (integerText isDecimalDigit)

/-- Whether a character may follow in a number-like scalar. -/
def isNumberPart (character : Char) : Bool :=
  isDecimalDigit character || ('A' ≤ character && character ≤ 'Z') ||
    ('a' ≤ character && character ≤ 'z') || character = '_' || character = '.' ||
    character = '+' || character = '-'

/-- Whether a text starts like a number: a digit, with a sign or a point allowed in front. -/
def startsNumber : List Char → Bool
  | [] => false
  | first :: rest =>
      isDecimalDigit first ||
        ((first = '-' || first = '+' || first = '.') && rest.head?.any isDecimalDigit)

/-- Whether only blanks and a comment are left on a line. -/
def endsLine (text : List Char) : Bool :=
  match text.dropWhile isBlank with
  | [] => true
  | character :: _ => character = '#'

/-- The number-like scalar that is the rest of a line behind its mark; a blank has to stand
between them. -/
def numberAfterMark? (text : List Char) : Option (List Char) :=
  let scalar := text.dropWhile isBlank
  let number := scalar.takeWhile isNumberPart
  if text.head?.any isBlank && startsNumber scalar && endsLine (scalar.drop number.length) then
    some number
  else none

/-- The number-like scalar behind the first colon that has one. -/
def numberAfterColon? : List Char → Option (List Char)
  | [] => none
  | character :: rest =>
      if character = ':' then
        match numberAfterMark? rest with
        | some number => some number
        | none => numberAfterColon? rest
      else numberAfterColon? rest

/-- The number-like scalar at the end of a line, behind the dash that starts the line or
behind a colon. -/
def numberOfLine? (line : List Char) : Option (List Char) :=
  match line.dropWhile isBlank with
  | '-' :: rest =>
      match numberAfterMark? rest with
      | some number => some number
      | none => numberAfterColon? line
  | _ => numberAfterColon? line

/-- The text that a plain number is written back as; nothing for other scalars. -/
def writtenBack? (number : List Char) : Option (List Char) :=
  match Scalar.ofPlain number with
  | .integer value => if exactInteger value then some (integerText value) else none
  | .floating value => some (floatingText value)
  | _ => none

/-- Whether a number-like scalar is a number with another spelling than it is written back
with. -/
def isLossy (number : List Char) : Bool := (writtenBack? number).any (· != number)

/-- The first number-like scalar of a text that would not be written back as it stands. -/
def lossyNumber? (text : List Char) : Option (List Char) :=
  ((Text.splitAt '\n' text).filterMap numberOfLine?).find? isLossy

end ReleaseRules.Yaml
