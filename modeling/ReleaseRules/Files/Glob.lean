import ReleaseRules.Files.Path

/-!
Contract: file patterns.

Owns:
- patterns and the rules by which they are read;
- matching a text, and matching a path against several patterns.

Does not own: which files there are.
-/

namespace ReleaseRules

namespace Glob

/-- Characters that a class names: those between two characters. -/
structure Range where
  first : Char
  last : Char
deriving DecidableEq, Repr

/-- Token of a pattern. -/
inductive Token where
  | literal (character : Char)
  | anyOne
  | anyText
  | anyDirectories
  | within (ranges : List Range)
  | except (ranges : List Range)
deriving DecidableEq, Repr

/-- Reasons for which a pattern is invalid: too many stars, a double star inside a component,
and a class without an end. -/
inductive PatternError where
  | tooManyStars
  | doubleStarInComponent
  | unclosedClass
deriving DecidableEq, Repr

/-- The ranges that the inside of a class names. `skip` characters belong to the last range. -/
def rangesFrom (skip : Nat) : List Char → List Range
  | [] => []
  | first :: rest =>
      match skip with
      | more + 1 => rangesFrom more rest
      | 0 =>
          match rest with
          | '-' :: last :: _ => ⟨first, last⟩ :: rangesFrom 2 rest
          | _ => ⟨first, first⟩ :: rangesFrom 0 rest

/-- The class behind an opening bracket, and its length without the bracket. The first
character, after an exclamation mark if there is one, is never the end of the class. -/
def classAfter? (text : List Char) : Option (Token × Nat) :=
  match text with
  | '!' :: first :: rest =>
      let inner := rest.takeWhile (· != ']')
      if inner.length < rest.length then
        some (.except (rangesFrom 0 (first :: inner)), inner.length + 3)
      else none
  | ['!'] => none
  | first :: rest =>
      let inner := rest.takeWhile (· != ']')
      if inner.length < rest.length then
        some (.within (rangesFrom 0 (first :: inner)), inner.length + 2)
      else none
  | [] => none

/-- Whether a token is a double star. -/
def Token.isDirectories : Token → Bool
  | .anyDirectories => true
  | _ => false

/-- Read the tokens of a pattern. `before` is the character in front, `read` are the tokens so
far, the last one first, and `skip` characters belong to the last token. A double star takes
the slash behind it along, and one that follows another is left out. -/
def readTokens (before : Option Char) (read : List Token) (skip : Nat) :
    List Char → Except PatternError (List Token)
  | [] => .ok read.reverse
  | character :: rest =>
      match skip with
      | more + 1 => readTokens (some character) read more rest
      | 0 =>
          match character with
          | '?' => readTokens (some character) (.anyOne :: read) 0 rest
          | '[' =>
              match classAfter? rest with
              | some (token, length) => readTokens (some character) (token :: read) length rest
              | none => .error .unclosedClass
          | '*' =>
              match rest with
              | '*' :: '*' :: _ => .error .tooManyStars
              | '*' :: after =>
                  if before.any (· != '/') then .error .doubleStarInComponent
                  else
                    let read :=
                      if 1 < read.length && read.head?.any Token.isDirectories then read
                      else .anyDirectories :: read
                    match after with
                    | [] => readTokens (some character) read 1 rest
                    | next :: _ =>
                        if next = '/' then readTokens (some character) read 2 rest
                        else .error .doubleStarInComponent
              | _ => readTokens (some character) (.anyText :: read) 0 rest
          | _ => readTokens (some character) (.literal character :: read) 0 rest

/-- Read a pattern. -/
def compile (pattern : List Char) : Except PatternError (List Token) :=
  readTokens none [] 0 pattern

/-- Whether a character lies in one of the ranges. -/
def inRanges (ranges : List Range) (character : Char) : Bool :=
  ranges.any fun range => range.first ≤ character && character ≤ range.last

/-- Whether a token that stands for one character stands for this one. -/
def Token.accepts (token : Token) (character : Char) : Bool :=
  match token with
  | .literal expected => expected = character
  | .anyOne => true
  | .within ranges => inRanges ranges character
  | .except ranges => !inRanges ranges character
  | .anyText => false
  | .anyDirectories => false

/-- Outcome of a match. An exhausted text cannot match, however much of it the stars before
take. -/
inductive Outcome where
  | matched
  | mismatch
  | exhausted
deriving DecidableEq, Repr

/-- Let a star take more and more of a text, after it has taken nothing in vain. A double star
stops only behind slashes and at the end. -/
def takeMore (directories : Bool) (next : List Char → Outcome) : List Char → Outcome
  | [] => next []
  | character :: rest =>
      if directories && character != '/' then takeMore directories next rest
      else
        match next rest with
        | .mismatch => takeMore directories next rest
        | outcome => outcome

/-- Let a star take as little of a text as the tokens behind it need. -/
def takeLeast (directories : Bool) (next : List Char → Outcome) (text : List Char) : Outcome :=
  match next text with
  | .mismatch => takeMore directories next text
  | outcome => outcome

/-- Match tokens against a whole text. -/
def matchTokens : List Token → List Char → Outcome
  | [], text => if text.isEmpty then .matched else .mismatch
  | .anyText :: tokens, text => takeLeast false (matchTokens tokens) text
  | .anyDirectories :: tokens, text => takeLeast true (matchTokens tokens) text
  | token :: tokens, text =>
      match text with
      | [] => .exhausted
      | character :: rest =>
          if token.accepts character then matchTokens tokens rest else .mismatch

/-- Whether a text matches a pattern; an invalid pattern matches nothing. -/
def matchesText (pattern text : List Char) : Bool :=
  match compile pattern with
  | .ok tokens => matchTokens tokens text = .matched
  | .error _ => false

/-- Whether a path matches a pattern. Patterns with a slash are about the whole path, others
about its name. -/
def matchesPath (path pattern : List Char) : Bool :=
  let full := Text.replace '\\' '/' path
  if pattern.contains '/' then matchesText pattern full
  else matchesText pattern ((Path.fileName? path).getD full)

/-- Whether a path matches one of several patterns. -/
def matchesAny (path : List Char) (patterns : List String) : Bool :=
  patterns.any fun pattern => matchesPath path pattern.toList

end Glob

end ReleaseRules
