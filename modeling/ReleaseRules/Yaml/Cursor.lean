/-!
Contract: reading positions in YAML texts.

Owns:
- the characters that a text may hold, its blanks and its line breaks;
- a position with the text from it on, and steps over characters and lines.

Does not own: the tokens that are read.
-/

namespace ReleaseRules.Yaml

/-- Whether a character may stand in a text. -/
def isAllowed (character : Char) : Bool :=
  let value := character.toNat
  value == 0x9 || value == 0xA || value == 0xD || (0x20 ≤ value && value ≤ 0x7E) ||
    value == 0x85 || (0xA0 ≤ value && value ≤ 0xD7FF) ||
    (0xE000 ≤ value && value ≤ 0xFFFD) || 0x10000 ≤ value

/-- Whether a character breaks a line. -/
def isBreak (character : Char) : Bool :=
  character = '\n' || character = '\r' || character = '\u0085' ||
    character = '\u2028' || character = '\u2029'

/-- Whether a character is a space or a tab. -/
def isBlank (character : Char) : Bool := character = ' ' || character = '\t'

/-- Whether a character separates words: a blank or a line break. -/
def isSeparator (character : Char) : Bool := isBlank character || isBreak character

/-- Whether a text starts with a separator or is at its end. -/
def startsSeparated : List Char → Bool
  | [] => true
  | character :: _ => isSeparator character

/-- Whether a character belongs to the names of anchors, handles and directives. -/
def isNameCharacter (character : Char) : Bool :=
  ('0' ≤ character && character ≤ '9') || ('A' ≤ character && character ≤ 'Z') ||
    ('a' ≤ character && character ≤ 'z') || character = '_' || character = '-'

/-- A position: the text from there on, its index in characters, its line and its column. -/
structure Cursor where
  rest : List Char
  index : Nat
  line : Nat
  column : Nat
deriving DecidableEq, Repr, Inhabited

namespace Cursor

/-- The start of a text. -/
def ofText (text : List Char) : Cursor := ⟨text, 0, 0, 0⟩

/-- Step over characters of one line. -/
def skip (cursor : Cursor) (count : Nat) : Cursor :=
  { cursor with
    rest := cursor.rest.drop count
    index := cursor.index + count
    column := cursor.column + count }

/-- Step over the characters of one line that satisfy a test. -/
def skipWhile (cursor : Cursor) (test : Char → Bool) : Cursor :=
  cursor.skip (cursor.rest.takeWhile test).length

/-- Step over a byte order mark at the start of a line. -/
def skipOrderMark (cursor : Cursor) : Cursor :=
  if cursor.column == 0 && cursor.rest.head? == some '\uFEFF' then cursor.skip 1 else cursor

/-- Step over blanks. -/
def skipBlanks (cursor : Cursor) : Cursor := cursor.skipWhile isBlank

/-- Step over a comment, if one starts here. -/
def skipComment (cursor : Cursor) : Cursor :=
  match cursor.rest with
  | '#' :: _ => cursor.skipWhile fun character => !isBreak character
  | _ => cursor

/-- Step over one line break, if there is one, and give the text that stands for it. -/
def takeBreak (cursor : Cursor) : List Char × Cursor :=
  match cursor.rest with
  | '\r' :: '\n' :: rest => (['\n'], ⟨rest, cursor.index + 2, cursor.line + 1, 0⟩)
  | character :: rest =>
      if character = '\u2028' ∨ character = '\u2029' then
        ([character], ⟨rest, cursor.index + 1, cursor.line + 1, 0⟩)
      else if isBreak character then
        (['\n'], ⟨rest, cursor.index + 1, cursor.line + 1, 0⟩)
      else ([], cursor)
  | [] => ([], cursor)

/-- Whether a line break starts here. -/
def atBreak (cursor : Cursor) : Bool := cursor.rest.head?.any isBreak

/-- Whether a separator starts here or the text ends. -/
def atSeparator (cursor : Cursor) : Bool := startsSeparated cursor.rest

/-- Whether three equal marks, of which documents are made up, start the line here. -/
def atDocumentMark (cursor : Cursor) (mark : Char) : Bool :=
  cursor.column == 0 &&
    match cursor.rest with
    | first :: second :: third :: after =>
        first == mark && second == mark && third == mark && startsSeparated after
    | _ => false

/-- Whether a document starts or ends here. -/
def atDocumentBoundary (cursor : Cursor) : Bool :=
  cursor.atDocumentMark '-' || cursor.atDocumentMark '.'

end Cursor

end ReleaseRules.Yaml
