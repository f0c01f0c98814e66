import ReleaseRules.Document.Tree
import ReleaseRules.Yaml.Cursor
import ReleaseRules.Yaml.Scalar

/-!
Contract: writing trees as YAML.

Owns:
- the choice between plain, quoted and literal scalars;
- the written forms of scalars;
- block collections, whose lists stand at the indentation of the map around them.

Does not own: the line break at the end of a document.
-/

namespace ReleaseRules.Yaml

open Number (integerText)

/-- Whether a character may be written as it is. -/
def isPrintable (character : Char) : Bool :=
  let value := character.toNat
  value == 0xA || (0x20 ≤ value && value ≤ 0x7E) || (0xA0 ≤ value && value ≤ 0xD7FF) ||
    (0xE000 ≤ value && value ≤ 0xFFFD && value != 0xFEFF) || 0x10000 ≤ value

/-- Whether two characters stand next to each other in a text. -/
def hasPair (first second : Char → Bool) : List Char → Bool
  | [] => false
  | [_] => false
  | left :: right :: rest => (first left && second right) || hasPair first second (right :: rest)

/-- Whether a character has a meaning at the start of a plain scalar, whatever follows. -/
def isLeadingIndicator (character : Char) : Bool :=
  "#,[]\x7b\x7d&*!|>'\"%@\x60".toList.contains character

/-- Whether characters behind the first one would end a plain scalar: a colon before a
separator, or a number sign behind one. `spaced` tells whether a separator stands in front. -/
def hasInnerIndicator (spaced : Bool) : List Char → Bool
  | [] => false
  | character :: rest =>
      (character = ':' && startsSeparated rest) || (character = '#' && spaced) ||
        hasInnerIndicator (isSeparator character) rest

/-- Whether a plain scalar with this text would be read as something else. -/
def hasIndicator (text : List Char) : Bool :=
  match text with
  | [] => false
  | first :: rest =>
      text.take 3 == ['-', '-', '-'] || text.take 3 == ['.', '.', '.'] ||
        isLeadingIndicator first ||
        ((first = '?' || first = ':' || first = '-') && startsSeparated rest) ||
        hasInnerIndicator (isSeparator first) rest

/-- Whether a text starts or ends with a character that satisfies a test. -/
def hasEnd (test : Char → Bool) (text : List Char) : Bool :=
  text.head?.any test || text.getLast?.any test

/-- Whether a character is a space. -/
def isSpace (character : Char) : Bool := character = ' '

/-- Whether a text needs escapes: it has characters that cannot be written or a space in front
of a line break. -/
def needsEscapes (text : List Char) : Bool :=
  text.any (fun character => !isPrintable character) || hasPair isSpace isBreak text

/-- Whether a text may be a plain scalar. -/
def mayBePlain (text : List Char) : Bool :=
  !(needsEscapes text || text.any isBreak || hasEnd isSpace text || hasIndicator text)

/-- Whether a text may stand in single quotes. -/
def maySingleQuote (text : List Char) : Bool :=
  !(needsEscapes text || hasPair isBreak isSpace text)

/-- Whether a text may be a literal scalar. -/
def mayBeLiteral (text : List Char) : Bool :=
  !(text.isEmpty || needsEscapes text || text.getLast? == some ' ')

/-- Whether a plain scalar with this text is read back as the text. -/
def staysText (text : List Char) : Bool :=
  match Scalar.ofPlain text with
  | .text _ => !isZeroPadded text
  | _ => false

/-- The style in which a text is written. Texts with line feeds are literal where they can be,
and texts that would be read as another value are quoted. -/
def styleOf (text : List Char) : ScalarStyle :=
  if text.contains '\n' then
    if mayBeLiteral text then .literal else .doubleQuoted
  else if staysText text && mayBePlain text then .plain
  else if maySingleQuote text then .singleQuoted
  else .doubleQuoted

/-- Spaces of an indentation. -/
def spaces (count : Nat) : List Char := List.replicate count ' '

/-- The indentation step. -/
def indentStep : Nat := 2

/-- The hint behind the mark of a literal scalar: its indentation if that cannot be seen from
its first line, and its chomping. -/
def literalHint (text : List Char) : List Char :=
  let indent :=
    if text.head?.any (fun first => isSpace first || isBreak first) then
      Number.digitsOf indentStep
    else []
  let chomping :=
    match text.reverse with
    | [] => ['-']
    | [last] => if isBreak last then ['+'] else ['-']
    | last :: previous :: _ =>
        if isBreak last then (if isBreak previous then ['+'] else []) else ['-']
  indent ++ chomping

/-- The lines of a literal scalar. `fresh` tells whether a line starts here. -/
def literalLines (indent : Nat) (fresh : Bool) : List Char → List Char
  | [] => []
  | character :: rest =>
      if isBreak character then character :: literalLines indent true rest
      else if fresh then spaces indent ++ character :: literalLines indent false rest
      else character :: literalLines indent false rest

/-- The text between single quotes. A line break is followed by the indentation. -/
def singleQuotedText (indent : Nat) (fresh : Bool) : List Char → List Char
  | [] => if fresh then spaces indent else []
  | character :: rest =>
      if isBreak character then character :: singleQuotedText indent true rest
      else
        let shown := if character = '\'' then ['\'', '\''] else [character]
        (if fresh then spaces indent else []) ++ shown ++ singleQuotedText indent false rest

/-- An upper-case hexadecimal digit. -/
def upperHexDigit (value : Nat) : Char :=
  if value < 10 then Char.ofNat (48 + value) else Char.ofNat (55 + value)

/-- A number in so many hexadecimal digits. -/
def hexDigits : Nat → Nat → List Char
  | 0, _ => []
  | width + 1, value => hexDigits width (value / 16) ++ [upperHexDigit (value % 16)]

/-- The escape of a character behind its backslash. -/
def escapeOf (character : Char) : List Char :=
  match character with
  | '\x00' => ['0']
  | '\x07' => ['a']
  | '\x08' => ['b']
  | '\t' => ['t']
  | '\n' => ['n']
  | '\x0b' => ['v']
  | '\x0c' => ['f']
  | '\r' => ['r']
  | '\x1b' => ['e']
  | '"' => ['"']
  | '\\' => ['\\']
  | '\u0085' => ['N']
  | '\u00a0' => ['_']
  | '\u2028' => ['L']
  | '\u2029' => ['P']
  | _ =>
      let value := character.toNat
      if value ≤ 0xFF then 'x' :: hexDigits 2 value
      else if value ≤ 0xFFFF then 'u' :: hexDigits 4 value
      else 'U' :: hexDigits 8 value

/-- A character between double quotes. -/
def doubleQuotedCharacter (character : Char) : List Char :=
  if !isPrintable character || isBreak character || character = '"' || character = '\\' then
    '\\' :: escapeOf character
  else [character]

/-- A text in its style, at an indentation. -/
def writeText (indent : Nat) (text : List Char) : List Char :=
  match styleOf text with
  | .singleQuoted => '\'' :: (singleQuotedText indent false text ++ ['\''])
  | .doubleQuoted => '"' :: (text.flatMap doubleQuotedCharacter ++ ['"'])
  | .literal => '|' :: (literalHint text ++ '\n' :: literalLines indent true text)
  | _ => text

/-- What ends the line behind a scalar: nothing when a literal scalar has done so itself. -/
def lineEnd (text : List Char) : List Char :=
  if styleOf text = .literal ∧ text.getLast?.any isBreak then [] else ['\n']

/-- How many bytes a key may have that stands on one line with its value. -/
def simpleKeyLimit : Nat := 128

/-- Whether a key stands on one line with its value. -/
def isSimpleKey (key : String) : Bool :=
  decide (key.utf8ByteSize ≤ simpleKeyLimit) && !key.toList.any isBreak

/-- A number. -/
def writeNumber : TreeNumber → List Char
  | .integer value => integerText value
  | .floating value => floatingText (.finite value)

/-- A value that stands on one line, except for literal scalars, with its line end; nothing
for collections with items. -/
def writeLeaf? (indent : Nat) : Tree → Option (List Char)
  | .null => some "null\n".toList
  | .bool true => some "true\n".toList
  | .bool false => some "false\n".toList
  | .number value => some (writeNumber value ++ ['\n'])
  | .text value => some (writeText indent value.toList ++ lineEnd value.toList)
  | .list [] => some "[]\n".toList
  | .map [] => some "\x7b\x7d\n".toList
  | _ => none

/-- Whether a value is a list. -/
def isList : Tree → Bool
  | .list _ => true
  | _ => false

mutual

/-- A collection with items at an indentation; its first line is indented already. -/
def writeCollection (indent : Nat) : Tree → List Char
  | .list items => writeItems indent items
  | .map entries => writeEntries indent entries
  | _ => []

/-- The items of a list. -/
def writeItems (indent : Nat) : List Tree → List Char
  | [] => []
  | item :: rest =>
      '-' :: ' ' ::
        ((writeLeaf? (indent + indentStep) item).getD
          (writeCollection (indent + indentStep) item)) ++
        (if rest.isEmpty then [] else spaces indent) ++ writeItems indent rest

/-- The entries of a map. A key that does not fit on one line gets a line of its own. -/
def writeEntries (indent : Nat) : List (String × Tree) → List Char
  | [] => []
  | (key, value) :: rest =>
      let inner := indent + indentStep
      let shown := writeText inner key.toList
      let leaf := writeLeaf? inner value
      let entry :=
        if isSimpleKey key then
          shown ++ ':' ::
            (match leaf with
              | some text => ' ' :: text
              | none =>
                  let column := if isList value then indent else inner
                  '\n' :: (spaces column ++ writeCollection column value))
        else
          '?' :: ' ' :: (shown ++ lineEnd key.toList ++ spaces indent ++
            ':' :: ' ' :: leaf.getD (writeCollection inner value))
      entry ++ (if rest.isEmpty then [] else spaces indent) ++ writeEntries indent rest

end

/-- The text of a tree. -/
def write (tree : Tree) : List Char :=
  (writeLeaf? indentStep tree).getD (writeCollection 0 tree)

end ReleaseRules.Yaml
