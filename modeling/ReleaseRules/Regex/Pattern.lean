import ReleaseRules.Unicode.IntervalSet

/-!
Contract: the written form of regular expressions, before flags are resolved.

Owns:
- the pattern tree with its classes, assertions, groups and flag changes;
- the reasons for which a pattern is refused;
- the nesting depth of a pattern.

Does not own: reading patterns from text, and what a pattern matches.
-/

namespace ReleaseRules.Regex

/-- Reasons for which a pattern is refused. -/
inductive PatternError where
  | unclosedGroup
  | unopenedGroup
  | unclosedClass
  | invalidClassItem
  | invalidRange
  | unfinishedEscape
  | unknownEscape (character : Char)
  | invalidHexadecimal
  | missingOperand
  | invalidCount
  | unknownFlag
  | repeatedFlag
  | danglingNegation
  | invalidGroupName
  | repeatedGroupName (name : String)
  | backreference
  | lookAround
  | unknownBoundary
  | unknownProperty
  | propertyWithoutUnicode
  | notText
  | nestingTooDeep
  | tooLarge
deriving DecidableEq, Repr

/-- What a flag letter controls. -/
inductive Flag where
  | ignoreCase
  | multiLine
  | dotMatchesNewline
  | swapGreed
  | unicode
  | carriageReturns
  | extended
deriving DecidableEq, Repr

/-- Flags of a group or of a flag item: each with the state that it is given. -/
abbrev FlagChanges := List (Flag × Bool)

/-- Classes with a one-letter escape. -/
inductive ShorthandClass where
  | digit
  | space
  | word
deriving DecidableEq, Repr

/-- Operations on two bracketed classes. -/
inductive ClassOperation where
  | intersection
  | difference
  | symmetricDifference
deriving DecidableEq, Repr

/-- A literal character. A two-digit hexadecimal escape names a byte where Unicode is off. -/
structure Literal where
  character : Char
  namesByte : Bool
deriving DecidableEq, Repr

/-- Query for a Unicode property. -/
inductive PropertyQuery where
  | letter (name : Char)
  | named (name : String)
  | valued (name value : String)
deriving DecidableEq, Repr

/-- Contents of a bracketed class. -/
inductive ClassTree where
  | literal (value : Literal)
  | range (first last : Literal)
  | posix (name : String) (negated : Bool)
  | property (query : PropertyQuery) (negated : Bool)
  | shorthand (kind : ShorthandClass) (negated : Bool)
  | bracketed (negated : Bool) (contents : ClassTree)
  | union (items : List ClassTree)
  | combine (operation : ClassOperation) (left right : ClassTree)
deriving Repr, Inhabited

/-- Assertions about a position, as written. -/
inductive AssertionMark where
  | caret
  | dollar
  | textStart
  | textEnd
  | wordBoundary
  | noWordBoundary
  | wordStart
  | wordEnd
  | wordStartHalf
  | wordEndHalf
deriving DecidableEq, Repr

/-- Written form of a regular expression. -/
inductive Pattern where
  | empty
  | flags (changes : FlagChanges)
  | literal (value : Literal)
  | dot
  | assertion (mark : AssertionMark)
  | property (query : PropertyQuery) (negated : Bool)
  | shorthand (kind : ShorthandClass) (negated : Bool)
  | bracketed (negated : Bool) (contents : ClassTree)
  | repetition (body : Pattern) (least : Nat) (most : Option Nat) (greedy : Bool)
  | capture (index : Nat) (name : Option String) (body : Pattern)
  | group (changes : FlagChanges) (body : Pattern)
  | alternation (branches : List Pattern)
  | concatenation (parts : List Pattern)
deriving Repr, Inhabited

mutual

/-- Nesting depth of the contents of a class: brackets, unions and operations count. -/
def ClassTree.depth : ClassTree → Nat
  | .bracketed _ contents => contents.depth + 1
  | .union items => ClassTree.itemsDepth items + 1
  | .combine _ left right => max left.depth right.depth + 1
  | _ => 0

/-- Greatest depth among the items of a union. -/
def ClassTree.itemsDepth : List ClassTree → Nat
  | [] => 0
  | item :: rest => max item.depth (ClassTree.itemsDepth rest)

end

mutual

/-- Nesting depth of a pattern: everything that contains other parts counts. -/
def Pattern.depth : Pattern → Nat
  | .bracketed _ contents => contents.depth + 1
  | .repetition body _ _ _ => body.depth + 1
  | .capture _ _ body => body.depth + 1
  | .group _ body => body.depth + 1
  | .alternation branches => Pattern.partsDepth branches + 1
  | .concatenation parts => Pattern.partsDepth parts + 1
  | _ => 0

/-- Greatest depth among parts. -/
def Pattern.partsDepth : List Pattern → Nat
  | [] => 0
  | part :: rest => max part.depth (Pattern.partsDepth rest)

end

/-- The deepest nesting that is accepted. -/
def nestingLimit : Nat := 250

/-- Parts in sequence: none is the empty pattern, and one stands for itself. -/
def Pattern.ofParts : List Pattern → Pattern
  | [] => .empty
  | [part] => part
  | parts => .concatenation parts

/-- Branches: one stands for itself. -/
def Pattern.ofBranches : List Pattern → Pattern
  | [] => .empty
  | [branch] => branch
  | branches => .alternation branches

/-- Items of a class: one stands for itself. -/
def ClassTree.ofItems : List ClassTree → ClassTree
  | [item] => item
  | items => .union items

end ReleaseRules.Regex
