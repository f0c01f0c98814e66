import ReleaseRules.Text.Pieces

/-!
Contract: texts and keys of TOML documents.

Owns:
- the characters that a document may hold, blanks, comments and line ends;
- strings of the four kinds with their escapes;
- bare, quoted and dotted keys.

Does not own: values other than texts.
-/

namespace ReleaseRules.Toml

/-- Reasons for which a text is refused. -/
inductive ReadError where
  | unexpectedEnd
  | unexpectedCharacter (character : Char)
  | forbiddenCharacter (character : Char)
  | invalidEscape
  | invalidKey
  | invalidScalar
  | nestingTooDeep
  | duplicateKey (key : String)
  | notATable (key : String)
  | invalidData
deriving DecidableEq, Repr

/-- Whether a character is a space or a tab. -/
def isBlank (character : Char) : Bool := character = ' ' || character = '\t'

/-- Whether a character may stand in comments and strings. -/
def isPrintable (character : Char) : Bool :=
  character = '\t' || (32 ≤ character.toNat && character.toNat != 127)

/-- The text behind blanks. -/
def skipBlanks (text : List Char) : List Char := text.dropWhile isBlank

/-- The text behind a line end, if one starts here. -/
def lineEnd? : List Char → Option (List Char)
  | '\n' :: rest => some rest
  | '\r' :: '\n' :: rest => some rest
  | _ => none

/-- The text behind a comment, if one starts here. -/
def skipComment (text : List Char) : List Char :=
  match text with
  | '#' :: rest => rest.dropWhile isPrintable
  | _ => text

/-- The text behind blanks, comments and line ends. `budget` bounds the number of lines. -/
def skipLines : Nat → List Char → List Char
  | 0, text => text
  | budget + 1, text =>
      let rest := skipComment (skipBlanks text)
      match lineEnd? rest with
      | some after => skipLines budget after
      | none => rest

/-- The text behind blanks, comments and line ends. -/
def skipSpace (text : List Char) : List Char := skipLines (text.length + 1) text

/-- Value of a hexadecimal digit of either case. -/
def hexDigit? (character : Char) : Option Nat :=
  if '0' ≤ character ∧ character ≤ '9' then some (character.toNat - 48)
  else if 'a' ≤ character ∧ character ≤ 'f' then some (character.toNat - 87)
  else if 'A' ≤ character ∧ character ≤ 'F' then some (character.toNat - 55)
  else none

/-- Read so many hexadecimal digits after the value of the digits before them. -/
def readHex : Nat → Nat → List Char → Except ReadError (Nat × List Char)
  | 0, value, text => .ok (value, text)
  | _ + 1, _, [] => .error .unexpectedEnd
  | count + 1, value, character :: rest =>
      match hexDigit? character with
      | some digit => readHex count (16 * value + digit) rest
      | none => .error .invalidEscape

/-- Read an escape behind its backslash. -/
def readEscape : List Char → Except ReadError (Char × List Char)
  | [] => .error .unexpectedEnd
  | kind :: rest => do
      let width? : Option Nat :=
        match kind with
        | 'x' => some 2
        | 'u' => some 4
        | 'U' => some 8
        | _ => none
      match width? with
      | some width =>
          let (value, rest) ← readHex width 0 rest
          if value.isValidChar then return (Char.ofNat value, rest) else throw .invalidEscape
      | none =>
          match kind with
          | 'b' => return ('\x08', rest)
          | 't' => return ('\t', rest)
          | 'n' => return ('\n', rest)
          | 'f' => return ('\x0c', rest)
          | 'r' => return ('\r', rest)
          | 'e' => return ('\x1b', rest)
          | '"' => return ('"', rest)
          | '\\' => return ('\\', rest)
          | _ => throw .invalidEscape

/-- Read the rest of a string on one line up to its quote. `escapes` tells whether backslashes
start escapes, and `budget` bounds the number of characters. -/
def readLineString (quote : Char) (escapes : Bool) :
    Nat → List Char → Except ReadError (List Char × List Char)
  | 0, _ => .error .unexpectedEnd
  | _, [] => .error .unexpectedEnd
  | budget + 1, character :: rest =>
      if character = quote then .ok ([], rest)
      else if escapes && character = '\\' then do
        let (shown, rest) ← readEscape rest
        let (more, rest) ← readLineString quote escapes budget rest
        return (shown :: more, rest)
      else if isPrintable character then do
        let (more, rest) ← readLineString quote escapes budget rest
        return (character :: more, rest)
      else .error (.forbiddenCharacter character)

/-- The text behind a backslash at the end of a line, with all white space after it. -/
def continuation? (text : List Char) : Option (List Char) :=
  (lineEnd? (skipBlanks text)).map fun rest =>
    rest.dropWhile fun character =>
      isBlank character || character = '\n' || character = '\r'

/-- The number of equal quotes that a text starts with. -/
def leadingQuotes (quote : Char) (text : List Char) : Nat :=
  (text.takeWhile (· = quote)).length

/-- Read the rest of a string on several lines up to its three quotes; one or two more quotes
in front of them belong to the string. `budget` bounds the number of characters. -/
def readLongString (quote : Char) (escapes : Bool) :
    Nat → List Char → Except ReadError (List Char × List Char)
  | 0, _ => .error .unexpectedEnd
  | _, [] => .error .unexpectedEnd
  | budget + 1, character :: rest =>
      if character = quote then
        let count := leadingQuotes quote (character :: rest)
        if count < 3 then do
          let (more, rest) ← readLongString quote escapes budget rest
          return (character :: more, rest)
        else
          let closing := min count 5
          .ok (List.replicate (closing - 3) quote, rest.drop (closing - 1))
      else if escapes && character = '\\' then
        match continuation? rest with
        | some after => readLongString quote escapes budget after
        | none => do
            let (shown, rest) ← readEscape rest
            let (more, rest) ← readLongString quote escapes budget rest
            return (shown :: more, rest)
      else
        match lineEnd? (character :: rest) with
        | some after => do
            let (more, final) ← readLongString quote escapes budget after
            let ending := (character :: rest).take (rest.length + 1 - after.length)
            return (ending ++ more, final)
        | none =>
            if isPrintable character then do
              let (more, rest) ← readLongString quote escapes budget rest
              return (character :: more, rest)
            else .error (.forbiddenCharacter character)

/-- Read a string behind its first quote. A line end directly behind three quotes is left
out. -/
def readString (quote : Char) (rest : List Char) : Except ReadError (List Char × List Char) :=
  let escapes : Bool := quote = '"'
  match Text.stripPrefix? [quote, quote] rest with
  | some inner =>
      readLongString quote escapes (inner.length + 1) ((lineEnd? inner).getD inner)
  | none => readLineString quote escapes (rest.length + 1) rest

/-- Whether a character may stand in a bare key. -/
def isBareKey (character : Char) : Bool :=
  ('a' ≤ character && character ≤ 'z') || ('A' ≤ character && character ≤ 'Z') ||
    ('0' ≤ character && character ≤ '9') || character = '_' || character = '-'

/-- Read a simple key. -/
def readSimpleKey (text : List Char) : Except ReadError (String × List Char) :=
  match text with
  | [] => .error .unexpectedEnd
  | character :: rest =>
      if character = '"' ∨ character = '\'' then do
        let (name, rest) ←
          readLineString character (character = '"') (rest.length + 1) rest
        return (String.ofList name, rest)
      else
        let name := text.takeWhile isBareKey
        if name.isEmpty then .error .invalidKey
        else .ok (String.ofList name, text.drop name.length)

/-- Read a dotted key with blanks around it. `budget` bounds the number of its parts. -/
def readKeyParts : Nat → List Char → Except ReadError (List String × List Char)
  | 0, _ => .error .unexpectedEnd
  | budget + 1, text => do
      let (name, rest) ← readSimpleKey (skipBlanks text)
      match skipBlanks rest with
      | '.' :: rest =>
          let (names, rest) ← readKeyParts budget rest
          return (name :: names, rest)
      | rest => return ([name], rest)

/-- Read a dotted key with blanks around it. -/
def readKey (text : List Char) : Except ReadError (List String × List Char) :=
  readKeyParts (text.length + 1) text

end ReleaseRules.Toml
