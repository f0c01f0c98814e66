import ReleaseRules.Yaml.Cursor
import ReleaseRules.Yaml.Token

/-!
Contract: the texts of scalars.

Owns:
- gaps of blanks and line breaks inside scalars, and how they are folded;
- plain scalars, quoted scalars with their escapes, and block scalars.

Does not own: where a scalar may stand.
-/

namespace ReleaseRules.Yaml

/-- Blanks and line breaks between two pieces of a scalar: the blanks before the first break
and the texts of all breaks. -/
structure Gap where
  blanks : List Char
  breaks : List Char
deriving DecidableEq, Repr, Inhabited

namespace Gap

/-- No gap. -/
def empty : Gap := ⟨[], []⟩

/-- Whether a gap reaches into another line. -/
def crossesLine (gap : Gap) : Bool := !gap.breaks.isEmpty

/-- The text that a gap stands for: its blanks within a line, one space for a single line feed,
and otherwise its breaks without a first line feed. -/
def folded (gap : Gap) : List Char :=
  match gap.breaks with
  | [] => gap.blanks
  | '\n' :: [] => [' ']
  | '\n' :: more => more
  | breaks => breaks

/-- Read the lines of a gap after its first break. With `leastColumn`, a tab before that column
is refused. `budget` bounds the number of steps. -/
def readLines (leastColumn : Option Nat) :
    Nat → Cursor → Except ReadError (List Char × Cursor)
  | 0, cursor => .ok ([], cursor)
  | budget + 1, cursor =>
      match cursor.rest with
      | [] => .ok ([], cursor)
      | character :: _ =>
          if isBlank character then
            if character = '\t' ∧ leastColumn.any (cursor.column < ·) then
              .error .tabInIndentation
            else readLines leastColumn budget (cursor.skip 1)
          else if isBreak character then
            let (first, cursor) := cursor.takeBreak
            match readLines leastColumn budget cursor with
            | .error reason => .error reason
            | .ok (more, cursor) => .ok (first ++ more, cursor)
          else .ok ([], cursor)

/-- Read a gap. -/
def read (leastColumn : Option Nat) (cursor : Cursor) : Except ReadError (Gap × Cursor) :=
  let blanks := cursor.rest.takeWhile isBlank
  let cursor := cursor.skipBlanks
  if cursor.atBreak then
    match readLines leastColumn (cursor.rest.length + 1) cursor with
    | .error reason => .error reason
    | .ok (breaks, cursor) => .ok (⟨[], breaks⟩, cursor)
  else .ok (⟨blanks, []⟩, cursor)

end Gap

/-- Whether a character opens, closes or separates flow collections. -/
def isFlowMark (character : Char) : Bool :=
  character = ',' || character = '[' || character = ']' || character = '\x7b' ||
    character = '\x7d'

/-- Read a run of a plain scalar: characters up to a separator or a mark that ends it. In flow
collections a colon in front of a mark is refused. -/
def readPlainRun (inFlow : Bool) : List Char → Except ReadError (List Char)
  | [] => .ok []
  | character :: rest =>
      if isSeparator character then .ok []
      else if inFlow && character = ':' &&
          rest.head?.any (fun next => isFlowMark next || next = '?') then
        .error (.unexpectedCharacter ':')
      else if character = ':' && startsSeparated rest then .ok []
      else if inFlow && isFlowMark character then .ok []
      else
        match readPlainRun inFlow rest with
        | .error reason => .error reason
        | .ok run => .ok (character :: run)

/-- A plain scalar as read: its text, whether the cursor went on to a new line behind it, and
the cursor. -/
structure PlainScalar where
  text : List Char
  crossedLine : Bool
  cursor : Cursor
deriving Repr

/-- Read a plain scalar after a gap. `leastColumn` is the least column of its later lines, and
`budget` bounds the number of runs. -/
def readPlainFrom (inFlow : Bool) (leastColumn : Nat) :
    Nat → Gap → Cursor → Except ReadError PlainScalar
  | 0, gap, cursor => .ok ⟨[], gap.crossesLine, cursor⟩
  | budget + 1, gap, cursor =>
      if cursor.atDocumentBoundary || cursor.rest.head? == some '#' then
        .ok ⟨[], gap.crossesLine, cursor⟩
      else do
        let run ← readPlainRun inFlow cursor.rest
        if run.isEmpty then return ⟨[], gap.crossesLine, cursor⟩
        let shown := gap.folded ++ run
        let cursor := cursor.skip run.length
        if !cursor.rest.head?.any isSeparator then return ⟨shown, false, cursor⟩
        let (next, cursor) ← Gap.read (some leastColumn) cursor
        if !inFlow && cursor.column < leastColumn then
          return ⟨shown, next.crossesLine, cursor⟩
        let later ← readPlainFrom inFlow leastColumn budget next cursor
        return { later with text := shown ++ later.text }

/-- Read a plain scalar. -/
def readPlain (inFlow : Bool) (leastColumn : Nat) (cursor : Cursor) :
    Except ReadError PlainScalar :=
  readPlainFrom inFlow leastColumn (cursor.rest.length + 1) .empty cursor

/-- Value of a hexadecimal digit of either case. -/
def hexDigit? (character : Char) : Option Nat :=
  if '0' ≤ character ∧ character ≤ '9' then some (character.toNat - 48)
  else if 'a' ≤ character ∧ character ≤ 'f' then some (character.toNat - 87)
  else if 'A' ≤ character ∧ character ≤ 'F' then some (character.toNat - 55)
  else none

/-- Value of hexadecimal digits after the value of the digits before them. -/
def hexValue? (value : Nat) : List Char → Option Nat
  | [] => some value
  | character :: rest =>
      match hexDigit? character with
      | some digit => hexValue? (16 * value + digit) rest
      | none => none

/-- The character that a short escape stands for. -/
def shortEscape? : Char → Option Char
  | '0' => some '\x00'
  | 'a' => some '\x07'
  | 'b' => some '\x08'
  | 't' => some '\t'
  | '\t' => some '\t'
  | 'n' => some '\n'
  | 'v' => some '\x0b'
  | 'f' => some '\x0c'
  | 'r' => some '\r'
  | 'e' => some '\x1b'
  | ' ' => some ' '
  | '"' => some '"'
  | '/' => some '/'
  | '\\' => some '\\'
  | 'N' => some '\u0085'
  | '_' => some '\u00a0'
  | 'L' => some '\u2028'
  | 'P' => some '\u2029'
  | _ => none

/-- The number of digits of a numeric escape. -/
def escapeWidth? : Char → Option Nat
  | 'x' => some 2
  | 'u' => some 4
  | 'U' => some 8
  | _ => none

/-- Read an escape behind its backslash, and give its length without the backslash. -/
def readEscape : List Char → Except ReadError (Char × Nat)
  | [] => .error .invalidEscape
  | kind :: rest =>
      match shortEscape? kind with
      | some character => .ok (character, 1)
      | none =>
          match escapeWidth? kind with
          | none => .error .invalidEscape
          | some width =>
              if rest.length < width then .error .invalidEscape
              else
                match hexValue? 0 (rest.take width) with
                | none => .error .invalidEscape
                | some value =>
                    if value.isValidChar then .ok (Char.ofNat value, width + 1)
                    else .error .invalidEscape

/-- How a run of a quoted scalar ends: at a separator or the closing quote, or at a break that
is escaped. -/
inductive RunEnd where
  | plainly
  | escapedBreak
deriving DecidableEq, Repr

/-- Read a run of a quoted scalar up to a separator or its closing quote. `budget` bounds the
number of characters. -/
def readQuotedRun (single : Bool) :
    Nat → Cursor → Except ReadError (List Char × RunEnd × Cursor)
  | 0, cursor => .ok ([], .plainly, cursor)
  | budget + 1, cursor =>
      match cursor.rest with
      | [] => .ok ([], .plainly, cursor)
      | character :: rest =>
          if isSeparator character then .ok ([], .plainly, cursor)
          else if single then
            if character = '\'' then
              if rest.head? == some '\'' then do
                let (more, ending, cursor) ← readQuotedRun single budget (cursor.skip 2)
                return ('\'' :: more, ending, cursor)
              else .ok ([], .plainly, cursor)
            else do
              let (more, ending, cursor) ← readQuotedRun single budget (cursor.skip 1)
              return (character :: more, ending, cursor)
          else if character = '"' then .ok ([], .plainly, cursor)
          else if character = '\\' then
            if rest.head?.any isBreak then
              .ok ([], .escapedBreak, (cursor.skip 1).takeBreak.2)
            else do
              let (shown, length) ← readEscape rest
              let (more, ending, cursor) ←
                readQuotedRun single budget (cursor.skip (length + 1))
              return (shown :: more, ending, cursor)
          else do
            let (more, ending, cursor) ← readQuotedRun single budget (cursor.skip 1)
            return (character :: more, ending, cursor)

/-- The quote of a quoted scalar. -/
def quoteOf (single : Bool) : Char := if single then '\'' else '"'

/-- Read the rest of a quoted scalar up to and with its closing quote. `budget` bounds the
number of runs. -/
def readQuotedFrom (single : Bool) :
    Nat → Cursor → Except ReadError (List Char × Cursor)
  | 0, _ => .error .unexpectedEnd
  | budget + 1, cursor =>
      if cursor.atDocumentBoundary then .error .documentMarkInScalar
      else if cursor.rest.isEmpty then .error .unexpectedEnd
      else do
        let (run, ending, cursor) ← readQuotedRun single (cursor.rest.length + 1) cursor
        if cursor.rest.head? == some (quoteOf single) then return (run, cursor.skip 1)
        match ending with
        | .plainly =>
            let (gap, cursor) ← Gap.read none cursor
            let (later, cursor) ← readQuotedFrom single budget cursor
            return (run ++ gap.folded ++ later, cursor)
        | .escapedBreak =>
            let (breaks, cursor) ← Gap.readLines none (cursor.rest.length + 1) cursor
            let (later, cursor) ← readQuotedFrom single budget cursor
            return (run ++ breaks ++ later, cursor)

/-- Read a quoted scalar; the cursor is at its opening quote. -/
def readQuoted (single : Bool) (cursor : Cursor) : Except ReadError (List Char × Cursor) :=
  readQuotedFrom single (cursor.rest.length + 1) (cursor.skip 1)

/-- What happens to the line breaks at the end of a block scalar. -/
inductive Chomping where
  | strip
  | clip
  | keep
deriving DecidableEq, Repr

/-- The chomping that a mark asks for. -/
def chomping? : Char → Option Chomping
  | '-' => some .strip
  | '+' => some .keep
  | _ => none

/-- The indentation that a digit of a header asks for. Zero is refused. -/
def headerIndent? (character : Char) : Except ReadError (Option Nat) :=
  if character = '0' then .error .invalidBlockHeader
  else if '1' ≤ character ∧ character ≤ '9' then .ok (some (character.toNat - 48))
  else .ok none

/-- Read the header of a block scalar behind its indicator: chomping, indentation and the
number of characters. -/
def readHeader : List Char → Except ReadError (Chomping × Option Nat × Nat)
  | [] => .ok (.clip, none, 0)
  | first :: rest =>
      match chomping? first with
      | some chomping =>
          match rest with
          | [] => .ok (chomping, none, 1)
          | second :: _ => do
              match ← headerIndent? second with
              | some indent => return (chomping, some indent, 2)
              | none => return (chomping, none, 1)
      | none => do
          match ← headerIndent? first with
          | none => return (.clip, none, 0)
          | some indent =>
              match rest.head?.bind chomping? with
              | some chomping => return (chomping, some indent, 2)
              | none => return (.clip, some indent, 1)

/-- Read indentation and empty lines in front of a line of a block scalar: the breaks, the
greatest column seen and the cursor. Without an indentation every leading space counts as
indentation. `budget` bounds the number of lines. -/
def readEmptyLines (indent : Option Nat) :
    Nat → Nat → Cursor → Except ReadError (List Char × Nat × Cursor)
  | 0, widest, cursor => .ok ([], widest, cursor)
  | budget + 1, widest, cursor =>
      let spaces := (cursor.rest.takeWhile (· = ' ')).length
      let eaten :=
        match indent with
        | none => spaces
        | some indent => min spaces (indent - cursor.column)
      let cursor := cursor.skip eaten
      let widest := max widest cursor.column
      let mayIndent :=
        match indent with
        | none => true
        | some indent => decide (cursor.column < indent)
      if mayIndent && cursor.rest.head? == some '\t' then .error .tabInIndentation
      else if cursor.atBreak then
        let (first, cursor) := cursor.takeBreak
        match readEmptyLines indent budget widest cursor with
        | .error reason => .error reason
        | .ok (more, widest, cursor) => .ok (first ++ more, widest, cursor)
      else .ok ([], widest, cursor)

/-- What is known between two lines of a block scalar: the break that ended the last line, the
empty lines after it, and whether the last line started with a blank. -/
structure LineEnd where
  last : List Char
  empty : List Char
  blank : Bool
deriving Repr

/-- The text between two lines. In a folded scalar a single line feed becomes a space, unless
one of the lines starts with a blank. -/
def LineEnd.between (ending : LineEnd) (style : ScalarStyle) (blank : Bool) : List Char :=
  if style = .folded ∧ ending.last = ['\n'] ∧ ending.blank = false ∧ blank = false then
    if ending.empty.isEmpty then [' '] else ending.empty
  else ending.last ++ ending.empty

/-- The text behind the last line. -/
def LineEnd.tail (ending : LineEnd) : Chomping → List Char
  | .strip => []
  | .clip => ending.last
  | .keep => ending.last ++ ending.empty

/-- Read the lines of a block scalar. `budget` bounds their number. -/
def readBlockLines (style : ScalarStyle) (chomping : Chomping) (indent : Nat) :
    Nat → LineEnd → Cursor → Except ReadError (List Char × Cursor)
  | 0, ending, cursor => .ok (ending.tail chomping, cursor)
  | budget + 1, ending, cursor =>
      if cursor.column == indent && !cursor.rest.isEmpty then do
        let blank := cursor.rest.head?.any isBlank
        let line := cursor.rest.takeWhile fun character => !isBreak character
        let (last, cursor) := (cursor.skip line.length).takeBreak
        let (empty, _, cursor) ←
          readEmptyLines (some indent) (cursor.rest.length + 1) 0 cursor
        let (later, cursor) ←
          readBlockLines style chomping indent budget ⟨last, empty, blank⟩ cursor
        return (ending.between style blank ++ line ++ later, cursor)
      else .ok (ending.tail chomping, cursor)

/-- Read a block scalar; the cursor is at its indicator. `parent` is the indentation of the
collection around it, if there is one. -/
def readBlock (style : ScalarStyle) (parent : Option Nat) (cursor : Cursor) :
    Except ReadError (List Char × Cursor) := do
  let cursor := cursor.skip 1
  let (chomping, increment, length) ← readHeader cursor.rest
  let cursor := ((cursor.skip length).skipBlanks).skipComment
  if !(cursor.rest.isEmpty || cursor.atBreak) then throw .invalidBlockHeader
  let cursor := cursor.takeBreak.2
  let asked := increment.map fun increment => parent.getD 0 + increment
  let (empty, widest, cursor) ← readEmptyLines asked (cursor.rest.length + 1) 0 cursor
  let least := max 1 ((parent.map (· + 1)).getD 0)
  let indent := asked.getD (max widest least)
  readBlockLines style chomping indent (cursor.rest.length + 1) ⟨[], empty, false⟩ cursor

end ReleaseRules.Yaml
