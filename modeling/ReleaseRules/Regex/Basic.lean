import ReleaseRules.Regex.PatternReader
import ReleaseRules.Regex.Search

/-!
Contract: compiled regular expressions and their matches in a text.

Owns:
- compilation from pattern text;
- matches with their groups, by number and by name;
- the sequence of all matches that do not overlap.

Does not own: replacing matches.
-/

namespace ReleaseRules

/-- Compiled regular expression: its program and the name of every group, group zero first. -/
structure Regex where
  program : Regex.Program
  groupNames : List (Option String)
deriving Repr, Inhabited

namespace Regex

/-- Part of a text, as positions of characters. -/
structure Span where
  start : Nat
  stop : Nat
deriving DecidableEq, Repr, Inhabited

/-- A match: the span of the whole and of every group that took part. -/
structure Match where
  whole : Span
  groups : List (Option Span)
deriving DecidableEq, Repr

/-- Names of the groups up to the last one that the expression records. -/
def namesOf (groups : List (Nat × Option String)) : List (Option String) :=
  let last := groups.foldl (fun last entry => max last entry.1) 0
  (List.range (last + 1)).map fun index => (groups.lookup index).join

/-- Compile a pattern. -/
def compile (pattern : List Char) : Except PatternError Regex := do
  let numbered ← readPattern pattern
  let expression ← numbered.pattern.expression
  return ⟨Program.ofExpression expression, namesOf expression.groups⟩

/-- The span that the latest records give a group. -/
def groupSpan (records : List (Nat × Nat)) (index : Nat) : Option Span := do
  let stop ← records.lookup (2 * index + 1)
  let start ← records.lookup (2 * index)
  return ⟨start, stop⟩

/-- The match of recorded positions. -/
def matchOf (regex : Regex) (records : List (Nat × Nat)) : Option Match :=
  (groupSpan records 0).map fun whole =>
    ⟨whole, (List.range regex.groupNames.length).map (groupSpan records)⟩

/-- The leftmost match that starts at `start` or later. -/
def find (regex : Regex) (text : Array Char) (start : Nat) : Option Match :=
  (regex.program.search text start).bind regex.matchOf

/-- Whether the text has a match. -/
def isMatch (regex : Regex) (text : Array Char) : Bool := (regex.find text 0).isSome

/-- The first match after a match that ended at `last`. An empty match there is passed over in
favour of the next one that starts later. -/
def findAfter (regex : Regex) (text : Array Char) (last : Option Nat) (start : Nat) :
    Option Match :=
  match regex.find text start with
  | none => none
  | some found =>
      if found.whole.start = found.whole.stop ∧ last = some found.whole.stop then
        regex.find text (start + 1)
      else some found

/-- All matches from `start` on that do not overlap; `fuel` bounds their number. -/
def matchesFrom (regex : Regex) (text : Array Char) :
    Nat → Option Nat → Nat → List Match
  | 0, _, _ => []
  | fuel + 1, last, start =>
      match regex.findAfter text last start with
      | none => []
      | some found =>
          found :: matchesFrom regex text fuel (some found.whole.stop) found.whole.stop

/-- All matches that do not overlap, from left to right. -/
def allMatches (regex : Regex) (text : Array Char) : List Match :=
  regex.matchesFrom text (2 * text.size + 2) none 0

/-- The span of the group with a name, if it took part. -/
def Match.named (found : Match) (regex : Regex) (name : String) : Option Span :=
  ((regex.groupNames.zip found.groups).lookup (some name)).join

/-- The characters of a span. -/
def Span.characters (span : Span) (text : Array Char) : List Char :=
  (text.extract span.start span.stop).toList

/-- The text in which every meta character has a backslash in front. -/
def escapeText (text : List Char) : List Char :=
  text.flatMap fun character =>
    if Reading.isMeta character then ['\\', character] else [character]

end Regex

end ReleaseRules
