import ReleaseRules.Regex.Basic
import ReleaseRules.Template.Placeholder

/-!
Contract: patterns that find a version inside of a value.

Owns:
- placeholder patterns and the regular expressions that they stand for;
- the choice between the two readings of a pattern.

Does not own: what is done with the version that is found.
-/

namespace ReleaseRules.VersionPattern

/-- The name of the group that holds the version. -/
def versionGroup : String := "version"

/-- Piece of a placeholder pattern: a literal character or a placeholder. -/
inductive Piece where
  | literal (character : Char)
  | placeholder (name : List Char)
deriving DecidableEq, Repr

/-- The pieces of a placeholder pattern. `skip` characters belong to the last placeholder. -/
def piecesFrom (skip : Nat) : List Char → List Piece
  | [] => []
  | character :: rest =>
      match skip with
      | more + 1 => piecesFrom more rest
      | 0 =>
          if character = '\x7b' then
            match Template.afterSingleBrace? rest with
            | some (name, after) =>
                .placeholder name :: piecesFrom (rest.length - after.length) rest
            | none => .literal character :: piecesFrom 0 rest
          else .literal character :: piecesFrom 0 rest

/-- The pieces of a placeholder pattern. -/
def pieces (pattern : List Char) : List Piece := piecesFrom 0 pattern

/-- A version in a regular expression: one to three runs of digits with dots between them. -/
def versionSource : List Char := "\\d+(?:\\.\\d+)\x7b0,2\x7d".toList

/-- Any text in a regular expression, as short as possible. -/
def anySource : List Char := ".+?".toList

/-- A named group around a regular expression. -/
def namedGroup (name inner : List Char) : List Char :=
  "(?P<".toList ++ name ++ '>' :: (inner ++ [')'])

/-- The source of the regular expression of pieces. `seen` are the names so far; only the first
placeholder of a name is a group. -/
def sourceOf (seen : List (List Char)) : List Piece → List Char
  | [] => []
  | .literal character :: rest => Regex.escapeText [character] ++ sourceOf seen rest
  | .placeholder name :: rest =>
      let inner := if name = versionGroup.toList then versionSource else anySource
      let shown := if seen.contains name then inner else namedGroup name inner
      shown ++ sourceOf (name :: seen) rest

/-- The source of the regular expression of a placeholder pattern, which matches whole
values. -/
def placeholderSource (pattern : List Char) : List Char :=
  '^' :: (sourceOf [] (pieces pattern) ++ ['$'])

/-- Whether a pattern has a placeholder for the version. -/
def hasVersionPlaceholder (pattern : List Char) : Bool :=
  (pieces pattern).contains (.placeholder versionGroup.toList)

/-- Whether a regular expression has a group for the version. -/
def hasVersionGroup (regex : Regex) : Bool := regex.groupNames.contains (some versionGroup)

/-- Reasons for which a pattern cannot be used. -/
inductive PatternError where
  | invalid (reason : Regex.PatternError)
  | noVersionGroup
deriving Repr

/-- Compile a pattern. A regular expression with a group for the version is taken as it is;
any other pattern that has a placeholder for the version is a placeholder pattern. -/
def compile (pattern : List Char) : Except PatternError Regex :=
  let asWritten := Regex.compile pattern
  match asWritten.toOption.filter hasVersionGroup with
  | some regex => .ok regex
  | none =>
      if hasVersionPlaceholder pattern then
        (Regex.compile (placeholderSource pattern)).mapError .invalid
      else
        match asWritten with
        | .error reason => .error (.invalid reason)
        | .ok _ => .error .noVersionGroup

/-- A regular expression for the first version anywhere in a value. -/
def anywhere : String := String.ofList (namedGroup versionGroup.toList versionSource)

end ReleaseRules.VersionPattern
