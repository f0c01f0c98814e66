import ReleaseRules.Yaml.Tag

/-!
Contract: the tokens of a YAML text.

Owns:
- indentation, which opens and closes block collections;
- simple keys: tokens that turn out to be keys when their colon is found;
- the sequence of all tokens.

Does not own: the nodes that tokens make up.
-/

namespace ReleaseRules.Yaml

/-- A place where a key may have started. -/
structure SimpleKey where
  token : Nat
  index : Nat
  line : Nat
  column : Nat
  required : Bool
deriving Repr

/-- State between two tokens.

`indents` are the columns of the open block collections, the innermost first. `keys` holds one
place for the block context and one for every open flow collection, the innermost first. -/
structure Lexer where
  cursor : Cursor
  tokens : Array Token
  indents : List Nat
  keys : List (Option SimpleKey)
  keyAllowed : Bool
deriving Repr

namespace Lexer

/-- The state at the start of a text. A byte order mark there does not count as a column. -/
def ofText (text : List Char) : Lexer :=
  let text :=
    match text with
    | '\uFEFF' :: rest => rest
    | _ => text
  ⟨Cursor.ofText text, #[], [], [none], true⟩

/-- Whether a flow collection is open. -/
def inFlow (lexer : Lexer) : Bool := 1 < lexer.keys.length

/-- The column of the innermost block collection, if one is open. -/
def indent (lexer : Lexer) : Option Nat := lexer.indents.head?

/-- Add a token. -/
def push (lexer : Lexer) (token : Token) : Lexer :=
  { lexer with tokens := lexer.tokens.push token }

/-- Go on at a cursor. -/
def moveTo (lexer : Lexer) (cursor : Cursor) : Lexer := { lexer with cursor := cursor }

/-- Step over spaces, comments and line breaks up to the next token. Tabs are skipped where
they cannot be indentation, and so is a byte order mark at the start of a line. `budget` bounds
the number of lines. -/
def skipToToken : Nat → Lexer → Lexer
  | 0, lexer => lexer
  | budget + 1, lexer =>
      let tabs := lexer.inFlow || !lexer.keyAllowed
      let cursor :=
        (lexer.cursor.skipOrderMark.skipWhile fun character =>
          character = ' ' || (tabs && character = '\t')).skipComment
      if cursor.atBreak then
        skipToToken budget
          { lexer with
            cursor := cursor.takeBreak.2
            keyAllowed := lexer.keyAllowed || !lexer.inFlow }
      else lexer.moveTo cursor

/-- How many characters a simple key may have. -/
def keyLengthLimit : Nat := 1024

/-- Whether a key that started at a place can no longer end at the cursor. -/
def SimpleKey.isStale (key : SimpleKey) (cursor : Cursor) : Bool :=
  key.line < cursor.line || key.index + keyLengthLimit < cursor.index

/-- Drop the places whose keys can no longer end here. -/
def dropStaleKeys (lexer : Lexer) : Except ReadError Lexer :=
  if lexer.keys.any fun key =>
      key.any fun key => SimpleKey.isStale key lexer.cursor && key.required then
    .error .keyWithoutValue
  else
    .ok { lexer with
      keys := lexer.keys.map fun key =>
        key.filter fun key => !SimpleKey.isStale key lexer.cursor }

/-- Close the block collections that are indented more than a column; without a column all of
them. -/
def closeBlocks (lexer : Lexer) (column : Option Nat) : Lexer :=
  if lexer.inFlow then lexer
  else
    let open_ := lexer.indents.dropWhile fun indent =>
      match column with
      | some column => column < indent
      | none => true
    { lexer with
      tokens := lexer.tokens ++
        Array.replicate (lexer.indents.length - open_.length) Token.blockEnd
      indents := open_ }

/-- Open a block collection at a column, if that is more than the indentation; its token goes
to a place among the tokens. -/
def openBlock (lexer : Lexer) (column place : Nat) (token : Token) : Lexer :=
  if lexer.inFlow || lexer.indent.any (column ≤ ·) then lexer
  else
    { lexer with
      tokens := lexer.tokens.insertIdxIfInBounds place token
      indents := column :: lexer.indents }

/-- Give up the place for a key in the innermost collection. -/
def dropKey (lexer : Lexer) : Except ReadError Lexer :=
  match lexer.keys with
  | some key :: outer =>
      if key.required then .error .keyWithoutValue
      else .ok { lexer with keys := none :: outer }
  | _ => .ok lexer

/-- Take the cursor as a place for a key, if a key is allowed here. In block context a key is
required at the indentation of the innermost collection. -/
def saveKey (lexer : Lexer) : Except ReadError Lexer := do
  if !lexer.keyAllowed then return lexer
  let lexer ← lexer.dropKey
  let cursor := lexer.cursor
  let key : SimpleKey :=
    ⟨lexer.tokens.size, cursor.index, cursor.line, cursor.column,
      !lexer.inFlow && lexer.indent == some cursor.column⟩
  return { lexer with keys := some key :: lexer.keys.drop 1 }

/-- Read the mark of one token. -/
def readMark (lexer : Lexer) (token : Token) : Lexer :=
  (lexer.push token).moveTo (lexer.cursor.skip 1)

/-- Read a mark that starts or ends a document. -/
def readDocumentMark (lexer : Lexer) (token : Token) : Except ReadError Lexer := do
  let lexer ← (lexer.closeBlocks none).dropKey
  return { (lexer.push token).moveTo (lexer.cursor.skip 3) with keyAllowed := false }

/-- Read a directive. -/
def readDirectiveLine (lexer : Lexer) : Except ReadError Lexer := do
  let lexer ← (lexer.closeBlocks none).dropKey
  let (token, cursor) ← readDirective lexer.cursor
  return { (lexer.push token).moveTo cursor with keyAllowed := false }

/-- Read the mark that opens a flow collection. -/
def openFlow (lexer : Lexer) (token : Token) : Except ReadError Lexer := do
  let lexer ← lexer.saveKey
  return { lexer.readMark token with keys := none :: lexer.keys, keyAllowed := true }

/-- Read the mark that closes a flow collection. -/
def closeFlow (lexer : Lexer) (token : Token) : Except ReadError Lexer := do
  let lexer ← lexer.dropKey
  return { lexer.readMark token with
    keys := if lexer.inFlow then lexer.keys.drop 1 else lexer.keys
    keyAllowed := false }

/-- Read the comma between entries of a flow collection. -/
def readFlowEntry (lexer : Lexer) : Except ReadError Lexer := do
  let lexer ← lexer.dropKey
  return { lexer.readMark .flowEntry with keyAllowed := true }

/-- Read the dash in front of an entry of a block sequence. -/
def readBlockEntry (lexer : Lexer) : Except ReadError Lexer := do
  if !lexer.inFlow && !lexer.keyAllowed then throw .entryNotAllowed
  let lexer := lexer.openBlock lexer.cursor.column lexer.tokens.size .blockSequenceStart
  let lexer ← lexer.dropKey
  return { lexer.readMark .blockEntry with keyAllowed := true }

/-- Read the question mark in front of a key. -/
def readKeyMark (lexer : Lexer) : Except ReadError Lexer := do
  if !lexer.inFlow && !lexer.keyAllowed then throw .entryNotAllowed
  let lexer := lexer.openBlock lexer.cursor.column lexer.tokens.size .blockMappingStart
  let lexer ← lexer.dropKey
  return { lexer.readMark .key with keyAllowed := !lexer.inFlow }

/-- Read the colon in front of a value. If a simple key ends here, the token of the key is put
in front of it. -/
def readValueMark (lexer : Lexer) : Except ReadError Lexer :=
  match lexer.keys with
  | some key :: outer =>
      let lexer :=
        { lexer with
          tokens := lexer.tokens.insertIdxIfInBounds key.token .key
          keys := none :: outer }
      let lexer := lexer.openBlock key.column key.token .blockMappingStart
      .ok { lexer.readMark .value with keyAllowed := false }
  | _ =>
      if !lexer.inFlow && !lexer.keyAllowed then .error .entryNotAllowed
      else
        let lexer := lexer.openBlock lexer.cursor.column lexer.tokens.size .blockMappingStart
        .ok { lexer.readMark .value with keyAllowed := !lexer.inFlow }

/-- Read an alias or an anchor. -/
def readAnchor (lexer : Lexer) (token : List Char → Token) : Except ReadError Lexer := do
  let lexer ← lexer.saveKey
  let (name, cursor) ← readAnchorName (lexer.cursor.skip 1)
  return { (lexer.push (token name)).moveTo cursor with keyAllowed := false }

/-- Read the tag of a node. -/
def readNodeTag (lexer : Lexer) : Except ReadError Lexer := do
  let lexer ← lexer.saveKey
  let (handle, suffix, cursor) ← readTag lexer.inFlow lexer.cursor
  return { (lexer.push (.tag handle suffix)).moveTo cursor with keyAllowed := false }

/-- Read a block scalar. -/
def readBlockScalar (lexer : Lexer) (style : ScalarStyle) : Except ReadError Lexer := do
  let lexer ← lexer.dropKey
  let (text, cursor) ← readBlock style lexer.indent lexer.cursor
  return { (lexer.push (.scalar style text)).moveTo cursor with keyAllowed := true }

/-- Read a quoted scalar. -/
def readQuotedScalar (lexer : Lexer) (single : Bool) : Except ReadError Lexer := do
  let lexer ← lexer.saveKey
  let (text, cursor) ← readQuoted single lexer.cursor
  let style := if single then ScalarStyle.singleQuoted else .doubleQuoted
  return { (lexer.push (.scalar style text)).moveTo cursor with keyAllowed := false }

/-- Read a plain scalar. A key is allowed behind it only on a new line. -/
def readPlainScalar (lexer : Lexer) : Except ReadError Lexer := do
  let lexer ← lexer.saveKey
  let scalar ← readPlain lexer.inFlow ((lexer.indent.map (· + 1)).getD 0) lexer.cursor
  return { (lexer.push (.scalar .plain scalar.text)).moveTo scalar.cursor with
    keyAllowed := scalar.crossedLine }

/-- Whether a character has a meaning of its own at the start of a token. -/
def isIndicator (character : Char) : Bool :=
  "-?:,[]\x7b\x7d#&*!|>'\"%@\x60".toList.contains character

/-- Whether a plain scalar can start here. Some indicators can start one if no separator
follows. -/
def startsPlain (inFlow : Bool) : List Char → Bool
  | [] => false
  | character :: rest =>
      !(isSeparator character || isIndicator character) ||
        (character = '-' && !(rest.head?.any isBlank)) ||
        (!inFlow && (character = '?' || character = ':') && !startsSeparated rest)

/-- Read the token at the cursor, which is at none of the marks of documents. -/
def readInner (lexer : Lexer) (character : Char) (after : List Char) :
    Except ReadError Lexer :=
  let marked := lexer.inFlow || startsSeparated after
  match character with
  | '[' => lexer.openFlow .flowSequenceStart
  | '\x7b' => lexer.openFlow .flowMappingStart
  | ']' => lexer.closeFlow .flowSequenceEnd
  | '\x7d' => lexer.closeFlow .flowMappingEnd
  | ',' => lexer.readFlowEntry
  | '*' => lexer.readAnchor .alias
  | '&' => lexer.readAnchor .anchor
  | '!' => lexer.readNodeTag
  | '\'' => lexer.readQuotedScalar true
  | '"' => lexer.readQuotedScalar false
  | _ =>
      if character = '-' ∧ startsSeparated after then lexer.readBlockEntry
      else if character = '?' ∧ marked then lexer.readKeyMark
      else if character = ':' ∧ marked then lexer.readValueMark
      else if character = '|' ∧ !lexer.inFlow then lexer.readBlockScalar .literal
      else if character = '>' ∧ !lexer.inFlow then lexer.readBlockScalar .folded
      else if startsPlain lexer.inFlow (character :: after) then lexer.readPlainScalar
      else .error (.unexpectedCharacter character)

/-- Read all tokens from the cursor on. `budget` bounds their number. -/
def readTokens : Nat → Lexer → Except ReadError (Array Token)
  | 0, _ => .error .unexpectedEnd
  | budget + 1, lexer => do
      let lexer ← (lexer.skipToToken (lexer.cursor.rest.length + 1)).dropStaleKeys
      let lexer := lexer.closeBlocks (some lexer.cursor.column)
      match lexer.cursor.rest with
      | [] =>
          let lexer ← (lexer.closeBlocks none).dropKey
          return lexer.tokens
      | character :: after =>
          let lexer ←
            if lexer.cursor.column == 0 && character == '%' then lexer.readDirectiveLine
            else if lexer.cursor.atDocumentMark '-' then lexer.readDocumentMark .documentStart
            else if lexer.cursor.atDocumentMark '.' then lexer.readDocumentMark .documentEnd
            else lexer.readInner character after
          readTokens budget lexer

end Lexer

/-- The tokens of a text. -/
def tokens (text : List Char) : Except ReadError (List Token) :=
  match text.find? fun character => !isAllowed character with
  | some character => .error (.forbiddenCharacter character)
  | none => (Lexer.readTokens (text.length + 2) (Lexer.ofText text)).map Array.toList

end ReleaseRules.Yaml
