import ReleaseRules.Regex.Pattern
import ReleaseRules.Number.Literal
import ReleaseRules.Unicode.CharacterClass
import ReleaseRules.Unicode.Version17

/-!
Contract: reading the written form of regular expressions.

Owns:
- the grammar of patterns, with extended mode in which white space and comments are skipped;
- the numbering of groups and the uniqueness of their names.

Does not own: flags other than extended mode, which matter only for what a pattern matches.
-/

namespace ReleaseRules.Regex

open Unicode (isBlank)

/-- State of reading: the text that is left, whether extended mode is on, the number of groups
so far and their names. -/
structure ReaderState where
  remaining : List Char
  extended : Bool
  groupCount : Nat
  groupNames : List String
deriving Repr

/-- Steps of reading. -/
abbrev Reading (α : Type) := StateT ReaderState (Except PatternError) α

namespace Reading

/-- Drop white space and comments; inside a comment everything up to a line feed goes. -/
def dropExtended (insideComment : Bool) : List Char → List Char
  | [] => []
  | character :: rest =>
      if insideComment then dropExtended (character != '\n') rest
      else if isBlank character then dropExtended false rest
      else if character = '#' then dropExtended true rest
      else character :: rest

/-- The text that is left. -/
def remaining : Reading (List Char) := return (← get).remaining

/-- Go on with another text. -/
def continueWith (text : List Char) : Reading Unit :=
  modify fun state => { state with remaining := text }

/-- Skip what extended mode ignores. -/
def skipSpace : Reading Unit :=
  modify fun state =>
    if state.extended then { state with remaining := dropExtended false state.remaining }
    else state

/-- The next character, if any. -/
def peek : Reading (Option Char) := return (← get).remaining.head?

/-- Skip one character. -/
def advance : Reading Unit :=
  modify fun state => { state with remaining := state.remaining.drop 1 }

/-- Skip one character and what extended mode ignores after it. -/
def advanceAndSkip : Reading Unit := do
  advance
  skipSpace

/-- The next character; the end of the text is an error. -/
def require (reason : PatternError) : Reading Char := do
  match ← peek with
  | some character => return character
  | none => throw reason

/-- Skip a given text if it comes next. -/
def skipText (text : List Char) : Reading Bool := do
  let rest ← remaining
  if text.isPrefixOf rest then
    continueWith (rest.drop text.length)
    return true
  else return false

/-- Digits, between which extended mode skips; `fuel` bounds their number. -/
def digits : Nat → Reading (List Char)
  | 0 => return []
  | fuel + 1 => do
      match ← peek with
      | some character =>
          if Number.isDecimalDigit character then
            advanceAndSkip
            return character :: (← digits fuel)
          else return []
      | none => return []

/-- A repetition count of at most 32 bits, with white space around it; nothing when there are
no digits. -/
def count : Reading (Option Nat) := do
  continueWith ((← remaining).dropWhile isBlank)
  let shown ← digits (← remaining).length
  continueWith ((← remaining).dropWhile isBlank)
  match Number.natural? 10 shown with
  | none => return none
  | some value => if value < 4294967296 then return some value else throw .invalidCount

/-- Hexadecimal digits in a fixed number. -/
def fixedHexadecimal : Nat → Reading (List Char)
  | 0 => return []
  | more + 1 => do
      let character ← require .unfinishedEscape
      match Number.radixDigit? 16 character with
      | none => throw .invalidHexadecimal
      | some _ =>
          advanceAndSkip
          return character :: (← fixedHexadecimal more)

/-- Hexadecimal digits up to a closing brace, which is skipped. -/
def bracedHexadecimal : Nat → Reading (List Char)
  | 0 => throw .unfinishedEscape
  | fuel + 1 => do
      let character ← require .unfinishedEscape
      advanceAndSkip
      if character = '\x7d' then return []
      match Number.radixDigit? 16 character with
      | none => throw .invalidHexadecimal
      | some _ => return character :: (← bracedHexadecimal fuel)

/-- The character with the code point that hexadecimal digits give. -/
def characterOf (shown : List Char) : Reading Char := do
  match Number.natural? 16 shown with
  | none => throw .invalidHexadecimal
  | some value =>
      if value < 0xD800 ∨ (0xDFFF < value ∧ value ≤ Unicode.lastCodePoint) then
        return Char.ofNat value
      else throw .invalidHexadecimal

/-- A hexadecimal escape after its letter. -/
def hexadecimalEscape (letter : Char) : Reading Pattern := do
  let next ← require .unfinishedEscape
  if next = '\x7b' then
    advanceAndSkip
    let shown ← bracedHexadecimal (← remaining).length
    return .literal ⟨← characterOf shown, false⟩
  else
    let width := if letter = 'x' then 2 else if letter = 'u' then 4 else 8
    let shown ← fixedHexadecimal width
    return .literal ⟨← characterOf shown, letter = 'x'⟩

/-- Split a property query at its comparison sign. The second component tells whether the
sign negates. -/
def splitQuery (name : List Char) : PropertyQuery × Bool :=
  let unequal := (List.range name.length).find? fun position =>
    ['!', '='].isPrefixOf (name.drop position)
  match unequal with
  | some position =>
      (.valued (String.ofList (name.take position)) (String.ofList (name.drop (position + 2))),
        true)
  | none =>
      let sign : Char := if name.contains ':' then ':' else '='
      if name.contains sign then
        (.valued (String.ofList (name.takeWhile (· ≠ sign)))
          (String.ofList ((name.dropWhile (· ≠ sign)).drop 1)), false)
      else (.named (String.ofList name), false)

/-- A property escape after its letter. -/
def propertyEscape (negated : Bool) : Reading Pattern := do
  skipSpace
  let next ← require .unfinishedEscape
  if next = '\x7b' then
    let name := ((← remaining).drop 1).takeWhile (· ≠ '\x7d')
    let rest := ((← remaining).drop 1).dropWhile (· ≠ '\x7d')
    if rest.isEmpty then throw .unfinishedEscape
    continueWith (rest.drop 1)
    let shown := if (← get).extended then dropExtended false name else name
    let query := splitQuery shown
    return .property query.1 (negated != query.2)
  else if next = '\\' then throw .unknownProperty
  else
    advanceAndSkip
    return .property (.letter next) negated

/-- Characters that have a meaning of their own in patterns. -/
def isMeta (character : Char) : Bool :=
  ['\\', '.', '+', '*', '?', '(', ')', '|', '[', ']', '\x7b', '\x7d', '^', '$', '#', '&',
    '-', '~'].contains character

/-- Characters that stand for themselves after a backslash: meta characters and all other
ASCII characters but letters, digits and the angle brackets. -/
def isEscapable (character : Char) : Bool :=
  isMeta character ||
    (decide (character.toNat < 128) && !character.isAlphanum && character != '<' &&
      character != '>')

/-- Letters and dashes up to something else, as names of boundaries use them. -/
def boundaryName : Nat → Reading (List Char)
  | 0 => return []
  | fuel + 1 => do
      match ← peek with
      | some character =>
          if character.isAlpha || character = '-' then
            advanceAndSkip
            return character :: (← boundaryName fuel)
          else return []
      | none => return []

/-- A named boundary after `\b`, if the brace there is not that of a repetition. -/
def namedBoundary : Reading AssertionMark := do
  let before ← get
  if (← peek) ≠ some '\x7b' then return .wordBoundary
  advanceAndSkip
  let first ← require .unknownBoundary
  if !(first.isAlpha || first = '-') then
    set before
    return .wordBoundary
  let name ← boundaryName (← remaining).length
  if (← peek) ≠ some '\x7d' then throw .unknownBoundary
  advance
  match String.ofList name with
  | "start" => return .wordStart
  | "end" => return .wordEnd
  | "start-half" => return .wordStartHalf
  | "end-half" => return .wordEndHalf
  | _ => throw .unknownBoundary

/-- An escape, from its backslash on. -/
def escape : Reading Pattern := do
  advance
  let letter ← require .unfinishedEscape
  if Number.isDecimalDigit letter then throw .backreference
  match letter with
  | 'x' | 'u' | 'U' => do
      advanceAndSkip
      hexadecimalEscape letter
  | 'p' => do
      advance
      propertyEscape false
  | 'P' => do
      advance
      propertyEscape true
  | _ => do
      advance
      if isEscapable letter then return .literal ⟨letter, false⟩
      match letter with
      | 'd' => return .shorthand .digit false
      | 's' => return .shorthand .space false
      | 'w' => return .shorthand .word false
      | 'D' => return .shorthand .digit true
      | 'S' => return .shorthand .space true
      | 'W' => return .shorthand .word true
      | 'a' => return .literal ⟨'\x07', false⟩
      | 'f' => return .literal ⟨'\x0c', false⟩
      | 't' => return .literal ⟨'\t', false⟩
      | 'n' => return .literal ⟨'\n', false⟩
      | 'r' => return .literal ⟨'\r', false⟩
      | 'v' => return .literal ⟨'\x0b', false⟩
      | 'A' => return .assertion .textStart
      | 'z' => return .assertion .textEnd
      | 'b' => return .assertion (← namedBoundary)
      | 'B' => return .assertion .noWordBoundary
      | '<' => return .assertion .wordStart
      | '>' => return .assertion .wordEnd
      | _ => throw (.unknownEscape letter)

/-- Names of the ASCII classes that brackets with colons enclose. -/
def posixNames : List String :=
  ["alnum", "alpha", "ascii", "blank", "cntrl", "digit", "graph", "lower", "print", "punct",
    "space", "upper", "word", "xdigit"]

/-- An ASCII class at an opening bracket, with the text after it. -/
def posixClass? (text : List Char) : Option (ClassTree × List Char) :=
  match text with
  | '[' :: ':' :: rest =>
      let negated := rest.head? == some '^'
      let shown := if negated then rest.drop 1 else rest
      let name := String.ofList (shown.takeWhile (· ≠ ':'))
      match shown.dropWhile (· ≠ ':') with
      | ':' :: ']' :: after =>
          if posixNames.contains name then some (.posix name negated, after) else none
      | _ => none
  | _ => none

/-- One member of a class: an escape or a character. -/
def classMember : Reading Pattern := do
  let character ← require .unclosedClass
  if character = '\\' then escape
  else
    advance
    return .literal ⟨character, false⟩

/-- A member as an item of a class. -/
def itemOf : Pattern → Reading ClassTree
  | .literal value => return .literal value
  | .property query negated => return .property query negated
  | .shorthand kind negated => return .shorthand kind negated
  | _ => throw .invalidClassItem

/-- A member as an end of a range. -/
def endOf : Pattern → Reading Literal
  | .literal value => return value
  | _ => throw .invalidRange

/-- A member or a range of a class. A dash before a closing bracket or another dash makes no
range. -/
def classItem : Reading ClassTree := do
  let first ← classMember
  skipSpace
  let next ← require .unclosedClass
  let state ← get
  let afterDash :=
    let rest := state.remaining.drop 1
    if state.extended then dropExtended false rest else rest
  if next ≠ '-' || afterDash.head? == some ']' || afterDash.head? == some '-' then
    itemOf first
  else
    advanceAndSkip
    let _ ← require .unclosedClass
    let last ← classMember
    let lower ← endOf first
    let upper ← endOf last
    if lower.character ≤ upper.character then return .range lower upper
    else throw .invalidRange

/-- Literal dashes at the start of a class. -/
def leadingDashes : Nat → Reading (List ClassTree)
  | 0 => return []
  | fuel + 1 => do
      if (← require .unclosedClass) = '-' then
        advanceAndSkip
        return .literal ⟨'-', false⟩ :: (← leadingDashes fuel)
      else return []

/-- The class that the items since the last operation complete. -/
def completeClass (pending : Option (ClassOperation × ClassTree)) (items : List ClassTree) :
    ClassTree :=
  let union := ClassTree.ofItems items.reverse
  match pending with
  | some (operation, left) => .combine operation left union
  | none => union

/-- The operation that comes next, if one does. -/
def operation? (text : List Char) : Option ClassOperation :=
  match text with
  | '&' :: '&' :: _ => some .intersection
  | '-' :: '-' :: _ => some .difference
  | '~' :: '~' :: _ => some .symmetricDifference
  | _ => none

mutual

/-- A bracketed class, from its opening bracket on. -/
def bracketedClass : Nat → Reading (Bool × ClassTree)
  | 0 => throw .unclosedClass
  | fuel + 1 => do
      advanceAndSkip
      let negated := (← require .unclosedClass) = '^'
      if negated then
        advanceAndSkip
        let _ ← require .unclosedClass
      let dashes ← leadingDashes fuel
      let opening ←
        if dashes.isEmpty && (← peek) == some ']' then do
          advanceAndSkip
          let _ ← require .unclosedClass
          pure [.literal ⟨']', false⟩]
        else pure dashes.reverse
      let contents ← classContents fuel none opening
      return (negated, contents)

/-- Items and operations up to the closing bracket. `items` are those since the last
operation, in reverse. -/
def classContents : Nat → Option (ClassOperation × ClassTree) → List ClassTree →
    Reading ClassTree
  | 0, _, _ => throw .unclosedClass
  | fuel + 1, pending, items => do
      skipSpace
      let character ← require .unclosedClass
      let text ← remaining
      if character = '[' then
        match posixClass? text with
        | some (item, rest) => do
            continueWith rest
            classContents fuel pending (item :: items)
        | none => do
            let (negated, contents) ← bracketedClass fuel
            classContents fuel pending (.bracketed negated contents :: items)
      else if character = ']' then
        advance
        return completeClass pending items
      else
        match operation? text with
        | some operation => do
            continueWith (text.drop 2)
            classContents fuel (some (operation, completeClass pending items)) []
        | none => do
            let item ← classItem
            classContents fuel pending (item :: items)

end

/-- Whether a character may stand in a group name. -/
def isNameCharacter (first : Bool) (character : Char) : Bool :=
  character = '_' || Unicode.Version17.isAlphabetic character ||
    (!first && (character = '.' || character = '[' || character = ']' ||
      Unicode.Version17.isNumeric character))

/-- A group name up to its angle bracket, which is skipped. -/
def groupName : Reading String := do
  let text ← remaining
  let name := text.takeWhile (· ≠ '>')
  let rest := text.dropWhile (· ≠ '>')
  if rest.isEmpty then throw .invalidGroupName
  match name with
  | [] => throw .invalidGroupName
  | first :: others =>
      if isNameCharacter true first && others.all (isNameCharacter false) then
        let shown := String.ofList name
        let state ← get
        if state.groupNames.contains shown then throw (.repeatedGroupName shown)
        set { state with remaining := rest.drop 1, groupNames := shown :: state.groupNames }
        return shown
      else throw .invalidGroupName

/-- The flag of a letter. -/
def flagOf : Char → Option Flag
  | 'i' => some .ignoreCase
  | 'm' => some .multiLine
  | 's' => some .dotMatchesNewline
  | 'U' => some .swapGreed
  | 'u' => some .unicode
  | 'R' => some .carriageReturns
  | 'x' => some .extended
  | _ => none

/-- Flag letters up to a colon or a closing parenthesis. `negative` tells whether the dash has
been seen, and `dangling` whether it was the last character. -/
def flagChanges : Nat → FlagChanges → Bool → Bool → Reading FlagChanges
  | 0, _, _, _ => throw .unclosedGroup
  | fuel + 1, changes, negative, dangling => do
      let character ← require .unclosedGroup
      if character = ':' ∨ character = ')' then
        if dangling then throw .danglingNegation
        return changes.reverse
      else if character = '-' then
        if negative then throw .danglingNegation
        advance
        flagChanges fuel changes true true
      else
        match flagOf character with
        | none => throw .unknownFlag
        | some flag =>
            if changes.any fun change => change.1 == flag then throw .repeatedFlag
            advance
            flagChanges fuel ((flag, !negative) :: changes) negative false

/-- Turn extended mode on or off as the changes say. -/
def applyExtended (changes : FlagChanges) : Reading Unit :=
  match changes.find? fun change => change.1 == .extended with
  | some (_, state) => modify fun current => { current with extended := state }
  | none => return ()

/-- A number for the next group. -/
def nextGroup : Reading Nat := do
  let state ← get
  set { state with groupCount := state.groupCount + 1 }
  return state.groupCount + 1

/-- A part of a sequence that a repetition mark can follow. -/
def operand (parts : List Pattern) : Reading (Pattern × List Pattern) :=
  match parts with
  | [] => throw .missingOperand
  | .flags _ :: _ => throw .missingOperand
  | part :: rest => return (part, rest)

/-- Skip the question mark after a repetition mark; its absence makes the repetition greedy. -/
def greed : Reading Bool := do
  if (← peek) == some '?' then
    advance
    return false
  else return true

/-- The bounds between braces, from the opening brace on. -/
def countedBounds : Reading (Nat × Option Nat) := do
  advanceAndSkip
  let _ ← require .invalidCount
  let least ← count
  let next ← require .invalidCount
  let bounds ←
    if next = ',' then do
      advanceAndSkip
      let after ← require .invalidCount
      match least with
      | none => throw .invalidCount
      | some least =>
          if after = '\x7d' then pure (least, none)
          else
            match ← count with
            | none => throw .invalidCount
            | some most => if least ≤ most then pure (least, some most) else throw .invalidCount
    else
      match least with
      | none => throw .invalidCount
      | some least => pure (least, some least)
  if (← peek) ≠ some '\x7d' then throw .invalidCount
  advanceAndSkip
  return bounds

mutual

/-- A group or a flag item, from its parenthesis on. -/
def group : Nat → Reading Pattern
  | 0 => throw .unclosedGroup
  | fuel + 1 => do
      advance
      skipSpace
      let text ← remaining
      if ["?=", "?!", "?<=", "?<!"].any fun mark => mark.toList.isPrefixOf text then
        throw .lookAround
      let marked ← skipText "?P<".toList
      let named ← if marked then pure true else skipText "?<".toList
      if named then
        let index ← nextGroup
        let name ← groupName
        return .capture index (some name) (← enclosed fuel [])
      else if ← skipText ['?'] then
        let changes ← flagChanges text.length [] false false
        let mark ← require .unclosedGroup
        advance
        if mark = ')' then
          if changes.isEmpty then throw .missingOperand
          applyExtended changes
          return .flags changes
        else return .group changes (← enclosed fuel changes)
      else
        let index ← nextGroup
        return .capture index none (← enclosed fuel [])

/-- The body of a group up to its parenthesis, with extended mode restored after it. -/
def enclosed : Nat → FlagChanges → Reading Pattern
  | 0, _ => throw .unclosedGroup
  | fuel + 1, changes => do
      let extended := (← get).extended
      applyExtended changes
      let body ← branches fuel [] []
      if (← peek) ≠ some ')' then throw .unclosedGroup
      modify fun state => { state with extended := extended }
      advance
      return body

/-- Branches up to a closing parenthesis or the end. `done` are the complete branches and
`parts` the parts of the current one, both in reverse. -/
def branches : Nat → List Pattern → List Pattern → Reading Pattern
  | 0, _, _ => throw .unclosedGroup
  | fuel + 1, done, parts => do
      skipSpace
      match ← peek with
      | none => return .ofBranches (Pattern.ofParts parts.reverse :: done).reverse
      | some ')' => return .ofBranches (Pattern.ofParts parts.reverse :: done).reverse
      | some '|' => do
          advance
          branches fuel (Pattern.ofParts parts.reverse :: done) []
      | some '(' => do
          let part ← group fuel
          branches fuel done (part :: parts)
      | some '[' => do
          let (negated, contents) ← bracketedClass ((← remaining).length + 1)
          branches fuel done (.bracketed negated contents :: parts)
      | some '?' => do
          let (part, others) ← operand parts
          advance
          let greedy ← greed
          branches fuel done (.repetition part 0 (some 1) greedy :: others)
      | some '*' => do
          let (part, others) ← operand parts
          advance
          let greedy ← greed
          branches fuel done (.repetition part 0 none greedy :: others)
      | some '+' => do
          let (part, others) ← operand parts
          advance
          let greedy ← greed
          branches fuel done (.repetition part 1 none greedy :: others)
      | some '\x7b' => do
          let (part, others) ← operand parts
          let (least, most) ← countedBounds
          let greedy ← greed
          branches fuel done (.repetition part least most greedy :: others)
      | some '\\' => do
          let part ← escape
          branches fuel done (part :: parts)
      | some '.' => do
          advance
          branches fuel done (.dot :: parts)
      | some '^' => do
          advance
          branches fuel done (.assertion .caret :: parts)
      | some '$' => do
          advance
          branches fuel done (.assertion .dollar :: parts)
      | some character => do
          advance
          branches fuel done (.literal ⟨character, false⟩ :: parts)

end

end Reading

/-- A pattern with the number of its groups. -/
structure NumberedPattern where
  pattern : Pattern
  groupCount : Nat
deriving Repr

/-- Read a whole pattern. -/
def readPattern (text : List Char) : Except PatternError NumberedPattern := do
  let reading : Reading Pattern := do
    let pattern ← Reading.branches (2 * text.length + 2) [] []
    if (← Reading.peek).isSome then throw .unopenedGroup
    return pattern
  let (pattern, state) ← reading.run ⟨text, false, 0, []⟩
  if nestingLimit < pattern.depth then throw .nestingTooDeep
  return ⟨pattern, state.groupCount⟩

end ReleaseRules.Regex
