import ReleaseRules.Json.Number

/-!
Contract: reading JSON texts.

Owns:
- strings with their escapes, arrays, objects and literals;
- the limit on nesting;
- what is well-formed but unusable: strings with unpaired surrogates, numbers out of range;
- the data of a text, and its tree.

Does not own: number literals.
-/

namespace ReleaseRules.Json

/-- White space between tokens. -/
def isSpace (character : Char) : Bool :=
  character = ' ' || character = '\n' || character = '\t' || character = '\r'

/-- The text without leading white space. -/
def skipSpace (text : List Char) : List Char := text.dropWhile isSpace

/-- Value of a hexadecimal digit of either case. -/
def hexDigit? (character : Char) : Option Nat :=
  if '0' ≤ character ∧ character ≤ '9' then some (character.toNat - 48)
  else if 'a' ≤ character ∧ character ≤ 'f' then some (character.toNat - 87)
  else if 'A' ≤ character ∧ character ≤ 'F' then some (character.toNat - 55)
  else none

/-- Value of four hexadecimal digits. -/
def codeUnit? (first second third fourth : Char) : Option Nat := do
  let first ← hexDigit? first
  let second ← hexDigit? second
  let third ← hexDigit? third
  let fourth ← hexDigit? fourth
  return ((first * 16 + second) * 16 + third) * 16 + fourth

/-- The character that a short escape stands for. -/
def shortEscape? : Char → Option Char
  | '"' => some '"'
  | '\\' => some '\\'
  | '/' => some '/'
  | 'b' => some '\x08'
  | 'f' => some '\x0c'
  | 'n' => some '\n'
  | 'r' => some '\r'
  | 't' => some '\t'
  | _ => none

/-- Read the rest of a string up to its closing quote. `lead` is a leading surrogate whose
partner has to follow at once. -/
def readString (lead : Option Nat) : List Char → Except ReadError (List Char × List Char)
  | [] => .error .unexpectedEnd
  | '\\' :: 'u' :: first :: second :: third :: fourth :: rest =>
      match codeUnit? first second third fourth with
      | none => .error .invalidEscape
      | some unit =>
          match lead with
          | some high =>
              if 0xDC00 ≤ unit ∧ unit ≤ 0xDFFF then
                match readString none rest with
                | .error reason => .error reason
                | .ok (characters, after) =>
                    .ok (Char.ofNat (0x10000 + (high - 0xD800) * 0x400 + (unit - 0xDC00)) ::
                      characters, after)
              else .error .loneSurrogate
          | none =>
              if 0xDC00 ≤ unit ∧ unit ≤ 0xDFFF then .error .loneSurrogate
              else if 0xD800 ≤ unit ∧ unit ≤ 0xDBFF then readString (some unit) rest
              else
                match readString none rest with
                | .error reason => .error reason
                | .ok (characters, after) => .ok (Char.ofNat unit :: characters, after)
  | '\\' :: escape :: rest =>
      if lead.isSome then .error .loneSurrogate
      else
        match shortEscape? escape with
        | none => .error .invalidEscape
        | some character =>
            match readString none rest with
            | .error reason => .error reason
            | .ok (characters, after) => .ok (character :: characters, after)
  | character :: rest =>
      if lead.isSome then .error .loneSurrogate
      else if character = '"' then .ok ([], rest)
      else if character.toNat < 32 then .error .controlCharacter
      else if character = '\\' then .error .unexpectedEnd
      else
        match readString none rest with
        | .error reason => .error reason
        | .ok (characters, after) => .ok (character :: characters, after)

/-- The text behind the closing quote of a string whose surrogates need not be paired. -/
def skipString : List Char → Except ReadError (List Char)
  | [] => .error .unexpectedEnd
  | '\\' :: 'u' :: first :: second :: third :: fourth :: rest =>
      if (codeUnit? first second third fourth).isSome then skipString rest
      else .error .invalidEscape
  | '\\' :: escape :: rest =>
      if (shortEscape? escape).isSome then skipString rest else .error .invalidEscape
  | character :: rest =>
      if character = '"' then .ok rest
      else if character.toNat < 32 then .error .controlCharacter
      else if character = '\\' then .error .unexpectedEnd
      else skipString rest

/-- Read the data of a string behind its opening quote. One with an unpaired surrogate is
unusable. -/
def readText (text : List Char) : Except ReadError (Datum × List Char) :=
  match readString none text with
  | .ok (characters, rest) => .ok (.text (String.ofList characters), rest)
  | .error .loneSurrogate => (skipString text).map fun rest => (.unusable, rest)
  | .error reason => .error reason

/-- Read the data of a number whose minus sign, if any, has been taken. One that is out of range
is unusable. -/
def readFigure (negative : Bool) (text : List Char) : Except ReadError (Datum × List Char) :=
  match readNumber negative text with
  | .error .numberOutOfRange => .ok (.unusable, skipNumber text)
  | result => result

/-- Read the items of an array up to its bracket; one item has to follow. `budget` bounds
their number. -/
def readItems (readItem : List Char → Except ReadError (Datum × List Char)) :
    Nat → List Char → Except ReadError (List Datum × List Char)
  | 0, _ => .error .unexpectedEnd
  | budget + 1, text => do
      let (item, rest) ← readItem text
      match skipSpace rest with
      | ',' :: rest =>
          let (items, rest) ← readItems readItem budget rest
          return (item :: items, rest)
      | ']' :: rest => return ([item], rest)
      | [] => throw .unexpectedEnd
      | character :: _ => throw (.unexpectedCharacter character)

/-- Read the entries of an object up to its brace; one entry has to follow. `budget` bounds
their number. -/
def readEntries (readItem : List Char → Except ReadError (Datum × List Char)) :
    Nat → List Char → Except ReadError (List (Datum × Datum) × List Char)
  | 0, _ => .error .unexpectedEnd
  | budget + 1, text => do
      match skipSpace text with
      | '"' :: rest =>
          let (key, rest) ← readText rest
          match skipSpace rest with
          | ':' :: rest =>
              let (value, rest) ← readItem rest
              match skipSpace rest with
              | ',' :: rest =>
                  let (entries, rest) ← readEntries readItem budget rest
                  return ((key, value) :: entries, rest)
              | '\x7d' :: rest => return ([(key, value)], rest)
              | [] => throw .unexpectedEnd
              | character :: _ => throw (.unexpectedCharacter character)
          | [] => throw .unexpectedEnd
          | character :: _ => throw (.unexpectedCharacter character)
      | [] => throw .unexpectedEnd
      | character :: _ => throw (.unexpectedCharacter character)

/-- Read one value. `depth` is the number of arrays and objects that may still be opened, and
`budget` bounds the items of each. -/
def readValue (budget depth : Nat) (text : List Char) :
    Except ReadError (Datum × List Char) :=
  match skipSpace text with
  | '[' :: rest =>
      match depth with
      | 0 => .error .nestingTooDeep
      | inner + 1 =>
          match skipSpace rest with
          | ']' :: rest => .ok (.list [], rest)
          | rest => do
              let (items, rest) ← readItems (readValue budget inner) budget rest
              return (.list items, rest)
  | '\x7b' :: rest =>
      match depth with
      | 0 => .error .nestingTooDeep
      | inner + 1 =>
          match skipSpace rest with
          | '\x7d' :: rest => .ok (.record [], rest)
          | rest => do
              let (entries, rest) ← readEntries (readValue budget inner) budget rest
              return (.record entries, rest)
  | '"' :: rest => readText rest
  | '-' :: rest => readFigure true rest
  | 'n' :: 'u' :: 'l' :: 'l' :: rest => .ok (.null, rest)
  | 't' :: 'r' :: 'u' :: 'e' :: rest => .ok (.bool true, rest)
  | 'f' :: 'a' :: 'l' :: 's' :: 'e' :: rest => .ok (.bool false, rest)
  | [] => .error .unexpectedEnd
  | character :: rest =>
      if isDigit character then readFigure false (character :: rest)
      else .error (.unexpectedCharacter character)
termination_by structural depth

/-- How many arrays and objects may be open at once. -/
def nestingLimit : Nat := 127

/-- The data of a JSON text. -/
def readDatum (text : List Char) : Except ReadError Datum := do
  let (value, rest) ← readValue text.length nestingLimit text
  if (skipSpace rest).isEmpty then return value else throw .trailingCharacters

/-- The tree of a JSON text. -/
def readTree (text : List Char) : Except ReadError Tree := do
  let value ← readDatum text
  match value.toTree? with
  | some tree => return tree
  | none => throw .numberOutOfRange

end ReleaseRules.Json
