import ReleaseRules.Toml.Scalar
import ReleaseRules.Toml.Table

/-!
Contract: reading TOML documents.

Owns:
- arrays and inline tables, with a limit on their nesting;
- pairs, headers and the lines that they stand on;
- the data of a document.

Does not own: scalars, strings and the building of tables.
-/

namespace ReleaseRules.Toml

/-- Whether a character belongs to a scalar that is not a string. -/
def isScalarCharacter (character : Char) : Bool :=
  isBareKey character || character = '+' || character = '.' || character = ':'

/-- The characters of a scalar at the start of a text. A date may be followed by a time behind
a space. -/
def scalarText (text : List Char) : List Char :=
  let first := text.takeWhile isScalarCharacter
  match text.drop first.length with
  | ' ' :: rest =>
      let second := rest.takeWhile isScalarCharacter
      match date? first, second with
      | some (_, []), digit :: _ =>
          if Number.isDecimalDigit digit then first ++ ' ' :: second else first
      | _, _ => first
  | _ => first

/-- Read a scalar that is not a string. -/
def readScalar (text : List Char) : Except ReadError (Datum × List Char) :=
  let shown := scalarText text
  match scalar? shown with
  | some datum => .ok (datum, text.drop shown.length)
  | none => .error .invalidScalar

/-- Read the items of an array up to its bracket. `budget` bounds their number. -/
def readItems (readValue : List Char → Except ReadError (Datum × List Char)) :
    Nat → List Char → Except ReadError (List Datum × List Char)
  | 0, _ => .error .unexpectedEnd
  | budget + 1, text =>
      match skipSpace text with
      | ']' :: rest => .ok ([], rest)
      | text => do
          let (item, rest) ← readValue text
          match skipSpace rest with
          | ',' :: rest =>
              let (items, rest) ← readItems readValue budget rest
              return (item :: items, rest)
          | ']' :: rest => return ([item], rest)
          | [] => throw .unexpectedEnd
          | character :: _ => throw (.unexpectedCharacter character)

/-- Read the pairs of an inline table up to its brace. `budget` bounds their number. -/
def readPairs (readValue : List Char → Except ReadError (Datum × List Char)) :
    Nat → Entries → List Char → Except ReadError (Entries × List Char)
  | 0, _, _ => .error .unexpectedEnd
  | budget + 1, entries, text =>
      match skipSpace text with
      | '\x7d' :: rest => .ok (entries, rest)
      | text => do
          let (path, rest) ← readKey text
          match rest with
          | '=' :: rest =>
              let (value, rest) ← readValue (skipBlanks rest)
              let entries ← addDotted path value entries
              match skipSpace rest with
              | ',' :: rest => readPairs readValue budget entries rest
              | '\x7d' :: rest => return (entries, rest)
              | [] => throw .unexpectedEnd
              | character :: _ => throw (.unexpectedCharacter character)
          | [] => throw .unexpectedEnd
          | character :: _ => throw (.unexpectedCharacter character)

/-- How many arrays and inline tables may be open at once. -/
def nestingLimit : Nat := 80

/-- Read a value. `depth` is the number of arrays and inline tables that may still be opened,
and `budget` bounds the items of each. -/
def readValue (budget : Nat) : Nat → List Char → Except ReadError (Datum × List Char)
  | depth, text =>
      match text with
      | [] => .error .unexpectedEnd
      | character :: rest =>
          if character = '"' ∨ character = '\'' then do
            let (shown, rest) ← readString character rest
            return (.text (String.ofList shown), rest)
          else if character = '[' then
            match depth with
            | 0 => .error .nestingTooDeep
            | depth + 1 => do
                let (items, rest) ← readItems (readValue budget depth) budget rest
                return (.list items, rest)
          else if character = '\x7b' then
            match depth with
            | 0 => .error .nestingTooDeep
            | depth + 1 => do
                let (entries, rest) ← readPairs (readValue budget depth) budget [] rest
                return (recordOf (entryData entries), rest)
          else readScalar (character :: rest)

/-- The path of a header and whether it is one of a list; the text starts behind the first
bracket. -/
def readHeader (text : List Char) : Except ReadError (Statement × List Char) :=
  match text with
  | '[' :: rest => do
      let (path, rest) ← readKey rest
      match rest with
      | ']' :: ']' :: rest => return (.header true path, rest)
      | _ => throw .invalidKey
  | _ => do
      let (path, rest) ← readKey text
      match rest with
      | ']' :: rest => return (.header false path, rest)
      | _ => throw .invalidKey

/-- Read one statement. -/
def readStatement (text : List Char) : Except ReadError (Statement × List Char) :=
  match text with
  | '[' :: rest => readHeader rest
  | _ => do
      let (path, rest) ← readKey text
      match rest with
      | '=' :: rest =>
          let (value, rest) ← readValue text.length nestingLimit (skipBlanks rest)
          return (.pair path value, rest)
      | [] => throw .unexpectedEnd
      | character :: _ => throw (.unexpectedCharacter character)

/-- Read all statements. Nothing but a comment may follow one on its line. `budget` bounds
their number. -/
def readStatements : Nat → List Char → Except ReadError (List Statement)
  | 0, _ => .error .unexpectedEnd
  | budget + 1, text =>
      match skipSpace text with
      | [] => .ok []
      | text => do
          let (statement, rest) ← readStatement text
          let rest := skipComment (skipBlanks rest)
          match lineEnd? rest, rest with
          | some after, _ =>
              let statements ← readStatements budget after
              return statement :: statements
          | none, [] => return [statement]
          | none, character :: _ => throw (.unexpectedCharacter character)

/-- The data of a document. A byte order mark at its start is passed over. -/
def readDatum (text : List Char) : Except ReadError Datum := do
  let text :=
    match text with
    | '\uFEFF' :: rest => rest
    | _ => text
  let statements ← readStatements (text.length + 1) text
  let entries ← runStatements statements [] []
  return recordOf (entryData entries)

end ReleaseRules.Toml
