import ReleaseRules.Regex.Pattern
import ReleaseRules.Unicode.Age
import ReleaseRules.Unicode.CaseOrbit
import ReleaseRules.Unicode.CharacterClass
import ReleaseRules.Unicode.TextBoundary

/-!
Contract: what a pattern means once its flags are resolved.

Owns:
- expressions over sets of code points and assertions;
- the meaning of classes, properties and flags;
- the bound on the size of an expression.

Does not own: matching.
-/

namespace ReleaseRules.Regex

open Unicode (Interval IntervalSet foldClosure isWord isAsciiWord whiteSpace wordCharacters
  decimalDigits)

/-- Assertions about a position between two characters. -/
inductive Assertion where
  | textStart
  | textEnd
  | lineStart (carriageReturns : Bool)
  | lineEnd (carriageReturns : Bool)
  | boundary (unicode : Bool)
  | noBoundary (unicode : Bool)
  | wordStart (unicode : Bool)
  | wordEnd (unicode : Bool)
  | wordStartHalf (unicode : Bool)
  | wordEndHalf (unicode : Bool)
deriving DecidableEq, Repr

/-- Meaning of a pattern. -/
inductive Expression where
  | empty
  | set (members : IntervalSet)
  | assertion (kind : Assertion)
  | capture (index : Nat) (name : Option String) (body : Expression)
  | concatenation (parts : List Expression)
  | alternation (branches : List Expression)
  | repetition (body : Expression) (least : Nat) (most : Option Nat) (greedy : Bool)
deriving Repr, Inhabited

/-- State of all flags that matter for the meaning. -/
structure Flags where
  ignoreCase : Bool := false
  multiLine : Bool := false
  dotMatchesNewline : Bool := false
  swapGreed : Bool := false
  unicode : Bool := true
  carriageReturns : Bool := false
deriving DecidableEq, Repr

/-- Give one flag a state. -/
def Flags.set (flags : Flags) : Flag × Bool → Flags
  | (.ignoreCase, state) => { flags with ignoreCase := state }
  | (.multiLine, state) => { flags with multiLine := state }
  | (.dotMatchesNewline, state) => { flags with dotMatchesNewline := state }
  | (.swapGreed, state) => { flags with swapGreed := state }
  | (.unicode, state) => { flags with unicode := state }
  | (.carriageReturns, state) => { flags with carriageReturns := state }
  | (.extended, _) => flags

/-- Apply changes from left to right. -/
def Flags.apply (flags : Flags) (changes : FlagChanges) : Flags :=
  changes.foldl Flags.set flags

/-- ASCII upper and lower case letters that differ in case alone, added to a set. -/
def asciiFoldClosure (set : IntervalSet) : IntervalSet :=
  let others := (List.range 26).flatMap fun position =>
    let upper := 65 + position
    let lower := 97 + position
    (if set.contains upper then [⟨lower, lower⟩] else []) ++
      (if set.contains lower then [⟨upper, upper⟩] else [])
  IntervalSet.normalize (set.intervals ++ others)

/-- Close a set under case folding where case is ignored. -/
def Flags.fold (flags : Flags) (set : IntervalSet) : IntervalSet :=
  if flags.ignoreCase then
    if flags.unicode then foldClosure set else asciiFoldClosure set
  else set

/-- Fold and then negate. -/
def Flags.foldAndNegate (flags : Flags) (negated : Bool) (set : IntervalSet) : IntervalSet :=
  let folded := flags.fold set
  if negated then folded.complement else folded

/-- The name of a property or value without case, spaces, dashes, underscores and a leading
`is`. The abbreviation `isc` is no name with that prefix. -/
def looseName (name : String) : String :=
  let letters := name.toList
  let prefixed :=
    match letters with
    | first :: second :: _ =>
        (first = 'i' || first = 'I') && (second = 's' || second = 'S')
    | _ => false
  let shown := (if prefixed then letters.drop 2 else letters).filterMap fun character =>
    if character = ' ' ∨ character = '_' ∨ character = '-' then none
    else if character.toNat < 128 then some character.toLower
    else none
  if prefixed && shown == ['c'] then "isc" else String.ofList shown

/-- The general category, or one of the three sets that are named like one. -/
def categoryNamed (name : String) : Option IntervalSet :=
  match name with
  | "any" => some IntervalSet.all
  | "assigned" => some (Unicode.ofCategories ["Cn"]).complement
  | "ascii" => some (IntervalSet.range 0 127)
  | _ => (Unicode.categoriesNamed name).map Unicode.ofCategories

/-- The set of a property query. A single name is looked up among the binary properties, then
among the general categories, then among the scripts. -/
def querySet : PropertyQuery → Option IntervalSet
  | .letter name => categoryNamed (looseName name.toString)
  | .named name =>
      let name := looseName name
      let binary :=
        if name = "cf" ∨ name = "sc" ∨ name = "lc" then none else Unicode.propertyNamed name
      match binary with
      | some set => some set
      | none =>
          match categoryNamed name with
          | some set => some set
          | none => Unicode.scriptNamed name
  | .valued name value =>
      match looseName name with
      | "gc" | "generalcategory" => categoryNamed (looseName value)
      | "sc" | "script" => Unicode.scriptNamed (looseName value)
      | "scx" | "scriptextensions" => Unicode.scriptUsers (looseName value)
      | "age" => Unicode.assignedBy (looseName value)
      | "gcb" | "graphemeclusterbreak" => Unicode.TextBoundary.Cluster.named (looseName value)
      | "wb" | "wordbreak" => Unicode.TextBoundary.Word.named (looseName value)
      | "sb" | "sentencebreak" => Unicode.TextBoundary.Sentence.named (looseName value)
      | _ => none

/-- The ASCII class of a name. -/
def posixSet (name : String) : IntervalSet :=
  match name with
  | "alnum" => ⟨[⟨48, 57⟩, ⟨65, 90⟩, ⟨97, 122⟩]⟩
  | "alpha" => ⟨[⟨65, 90⟩, ⟨97, 122⟩]⟩
  | "ascii" => ⟨[⟨0, 127⟩]⟩
  | "blank" => ⟨[⟨9, 9⟩, ⟨32, 32⟩]⟩
  | "cntrl" => ⟨[⟨0, 31⟩, ⟨127, 127⟩]⟩
  | "digit" => ⟨[⟨48, 57⟩]⟩
  | "graph" => ⟨[⟨33, 126⟩]⟩
  | "lower" => ⟨[⟨97, 122⟩]⟩
  | "print" => ⟨[⟨32, 126⟩]⟩
  | "punct" => ⟨[⟨33, 47⟩, ⟨58, 64⟩, ⟨91, 96⟩, ⟨123, 126⟩]⟩
  | "space" => ⟨[⟨9, 13⟩, ⟨32, 32⟩]⟩
  | "upper" => ⟨[⟨65, 90⟩]⟩
  | "word" => ⟨[⟨48, 57⟩, ⟨65, 90⟩, ⟨95, 95⟩, ⟨97, 122⟩]⟩
  | _ => ⟨[⟨48, 57⟩, ⟨65, 70⟩, ⟨97, 102⟩]⟩

/-- The set of a shorthand class. -/
def shorthandSet (unicode : Bool) : ShorthandClass → IntervalSet
  | .digit => if unicode then decimalDigits else posixSet "digit"
  | .space => if unicode then whiteSpace else posixSet "space"
  | .word => if unicode then wordCharacters else posixSet "word"

/-- Refuse a set that reaches beyond ASCII where Unicode is off: it would match single bytes
of longer characters. -/
def Flags.requireText (flags : Flags) (set : IntervalSet) :
    Except PatternError IntervalSet :=
  if flags.unicode || set.intervals.all fun interval => decide (interval.last < 128) then
    .ok set
  else .error .notText

/-- The code point of a literal in a class. -/
def Flags.classCodePoint (flags : Flags) (value : Literal) : Except PatternError Nat :=
  if flags.unicode || value.namesByte || decide (value.character.toNat < 128) then
    .ok value.character.toNat
  else .error .propertyWithoutUnicode

/-- The set of a property, folded and negated. -/
def Flags.propertySet (flags : Flags) (query : PropertyQuery) (negated : Bool) :
    Except PatternError IntervalSet :=
  if !flags.unicode then .error .propertyWithoutUnicode
  else
    match querySet query with
    | none => .error .unknownProperty
    | some set => .ok (flags.foldAndNegate negated set)

/-- The set of a shorthand class, negated. -/
def Flags.shorthandMembers (flags : Flags) (kind : ShorthandClass) (negated : Bool) :
    IntervalSet :=
  let set := shorthandSet flags.unicode kind
  if negated then set.complement else set

mutual

/-- The set that the contents of a class denote. -/
def ClassTree.members (flags : Flags) : ClassTree → Except PatternError IntervalSet
  | .literal value => do
      let codePoint ← flags.classCodePoint value
      return IntervalSet.singleton codePoint
  | .range first last => do
      let lower ← flags.classCodePoint first
      let upper ← flags.classCodePoint last
      return IntervalSet.range lower upper
  | .posix name negated => .ok (flags.foldAndNegate negated (posixSet name))
  | .property query negated => flags.propertySet query negated
  | .shorthand kind negated => flags.requireText (flags.shorthandMembers kind negated)
  | .bracketed negated contents => do
      let set ← contents.members flags
      return flags.foldAndNegate negated set
  | .union items => do
      let sets ← ClassTree.itemMembers flags items
      return IntervalSet.normalize (sets.flatMap IntervalSet.intervals)
  | .combine operation left right => do
      let left ← left.members flags
      let right ← right.members flags
      let left := flags.fold left
      let right := flags.fold right
      return match operation with
        | .intersection => left.intersection right
        | .difference => left.difference right
        | .symmetricDifference => left.symmetricDifference right

/-- The sets of all items. -/
def ClassTree.itemMembers (flags : Flags) :
    List ClassTree → Except PatternError (List IntervalSet)
  | [] => .ok []
  | item :: rest => do
      let first ← item.members flags
      let others ← ClassTree.itemMembers flags rest
      return first :: others

end

/-- The expression of a literal. -/
def Flags.literal (flags : Flags) (value : Literal) : Except PatternError Expression :=
  let codePoint := value.character.toNat
  if !flags.unicode && value.namesByte && decide (127 < codePoint) then .error .notText
  else if flags.ignoreCase then
    if !flags.unicode && decide (127 < codePoint) then .error .propertyWithoutUnicode
    else .ok (.set (flags.fold (IntervalSet.singleton codePoint)))
  else .ok (.set (IntervalSet.singleton codePoint))

/-- The set of the dot. -/
def Flags.dot (flags : Flags) : Except PatternError Expression :=
  if !flags.unicode then .error .notText
  else if flags.dotMatchesNewline then .ok (.set IntervalSet.all)
  else if flags.carriageReturns then .ok (.set (IntervalSet.complement ⟨[⟨10, 10⟩, ⟨13, 13⟩]⟩))
  else .ok (.set (IntervalSet.complement ⟨[⟨10, 10⟩]⟩))

/-- The assertion of a mark. -/
def Flags.assertion (flags : Flags) : AssertionMark → Assertion
  | .caret => if flags.multiLine then .lineStart flags.carriageReturns else .textStart
  | .dollar => if flags.multiLine then .lineEnd flags.carriageReturns else .textEnd
  | .textStart => .textStart
  | .textEnd => .textEnd
  | .wordBoundary => .boundary flags.unicode
  | .noWordBoundary => .noBoundary flags.unicode
  | .wordStart => .wordStart flags.unicode
  | .wordEnd => .wordEnd flags.unicode
  | .wordStartHalf => .wordStartHalf flags.unicode
  | .wordEndHalf => .wordEndHalf flags.unicode

mutual

/-- Whether an expression matches nothing but the empty text. -/
def Expression.onlyEmpty : Expression → Bool
  | .empty => true
  | .set _ => false
  | .assertion _ => true
  | .capture _ _ body => body.onlyEmpty
  | .concatenation parts => Expression.allOnlyEmpty parts
  | .alternation branches => Expression.allOnlyEmpty branches
  | .repetition body _ _ _ => body.onlyEmpty

/-- Whether no part matches more than the empty text. -/
def Expression.allOnlyEmpty : List Expression → Bool
  | [] => true
  | part :: rest => part.onlyEmpty && Expression.allOnlyEmpty rest

end

mutual

/-- Whether an expression can match the empty text, assertions taken as met. -/
def Expression.canBeEmpty : Expression → Bool
  | .empty => true
  | .set _ => false
  | .assertion _ => true
  | .capture _ _ body => body.canBeEmpty
  | .concatenation parts => Expression.allCanBeEmpty parts
  | .alternation branches => Expression.someCanBeEmpty branches
  | .repetition body least _ _ => least == 0 || body.canBeEmpty

/-- Whether every part can match the empty text. -/
def Expression.allCanBeEmpty : List Expression → Bool
  | [] => true
  | part :: rest => part.canBeEmpty && Expression.allCanBeEmpty rest

/-- Whether some branch can match the empty text. -/
def Expression.someCanBeEmpty : List Expression → Bool
  | [] => false
  | branch :: rest => branch.canBeEmpty || Expression.someCanBeEmpty rest

end

/-- A repetition. What matches only the empty text is repeated at most once, no repetition at
all is the empty expression, and exactly one is the body. -/
def Expression.repeated (body : Expression) (least : Nat) (most : Option Nat)
    (greedy : Bool) : Expression :=
  let bounds : Nat × Option Nat :=
    if body.onlyEmpty then
      (min least 1, some (match most with | some most => min most 1 | none => 1))
    else (least, most)
  match bounds with
  | (0, some 0) => .empty
  | (1, some 1) => body
  | (least, most) => .repetition body least most greedy

mutual

/-- The meaning of a pattern, with the flags that hold after it. -/
def Pattern.meaning (flags : Flags) : Pattern → Except PatternError (Expression × Flags)
  | .empty => .ok (.empty, flags)
  | .flags changes => .ok (.empty, flags.apply changes)
  | .literal value => do return (← flags.literal value, flags)
  | .dot => do return (← flags.dot, flags)
  | .assertion mark => .ok (.assertion (flags.assertion mark), flags)
  | .property query negated => do return (.set (← flags.propertySet query negated), flags)
  | .shorthand kind negated => do
      return (.set (← flags.requireText (flags.shorthandMembers kind negated)), flags)
  | .bracketed negated contents => do
      let set ← contents.members flags
      return (.set (← flags.requireText (flags.foldAndNegate negated set)), flags)
  | .repetition body least most greedy => do
      let (meaning, after) ← body.meaning flags
      return (meaning.repeated least most (greedy != after.swapGreed), after)
  | .capture index name body => do
      let (meaning, _) ← body.meaning flags
      return (.capture index name meaning, flags)
  | .group changes body => do
      let (meaning, _) ← body.meaning (flags.apply changes)
      return (meaning, flags)
  | .alternation branches => do
      let (meanings, after) ← Pattern.partMeanings flags branches
      return (.alternation meanings, after)
  | .concatenation parts => do
      let (meanings, after) ← Pattern.partMeanings flags parts
      return (.concatenation meanings, after)

/-- The meanings of parts; the flags after one hold for the next. -/
def Pattern.partMeanings (flags : Flags) :
    List Pattern → Except PatternError (List Expression × Flags)
  | [] => .ok ([], flags)
  | part :: rest => do
      let (meaning, after) ← part.meaning flags
      let (meanings, last) ← Pattern.partMeanings after rest
      return (meaning :: meanings, last)

end

/-- How many bytes the text of a code point takes. -/
def encodedLength (codePoint : Nat) : Nat :=
  if codePoint < 0x80 then 1 else if codePoint < 0x800 then 2
  else if codePoint < 0x10000 then 3 else 4

/-- An estimate for the compiled size of a set: a unit for every interval and every length of
encoding that it crosses. -/
def setSize (set : IntervalSet) : Nat :=
  match set.intervals with
  | [interval] =>
      if interval.first = interval.last then 32 * encodedLength interval.first
      else 64 + 44 * (encodedLength interval.last)
  | intervals =>
      intervals.foldl (fun total interval => total + 36 * encodedLength interval.last) 64

mutual

/-- An estimate for the compiled size of an expression. -/
def Expression.compiledSize : Expression → Nat
  | .empty => 32
  | .set members => setSize members
  | .assertion _ => 32
  | .capture _ _ body => body.compiledSize + 64
  | .concatenation parts => Expression.partsSize parts
  | .alternation branches => Expression.partsSize branches + 64 + 4 * branches.length
  | .repetition body least most _ =>
      match most with
      | none => body.compiledSize * max least 1 + 72
      | some most => body.compiledSize * most + 40 * (most - least) + 32

/-- Sum of the estimates. -/
def Expression.partsSize : List Expression → Nat
  | [] => 0
  | part :: rest => part.compiledSize + Expression.partsSize rest

end

/-- The largest compiled size that is accepted. -/
def sizeLimit : Nat := 10485760

/-- The meaning of a whole pattern. -/
def Pattern.expression (pattern : Pattern) : Except PatternError Expression := do
  let (meaning, _) ← pattern.meaning {}
  if sizeLimit < meaning.compiledSize then throw .tooLarge
  return meaning

end ReleaseRules.Regex
