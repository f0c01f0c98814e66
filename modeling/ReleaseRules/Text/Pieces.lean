/-!
Contract: taking texts apart and putting them together.

Owns:
- splitting at a separator and joining with one;
- prefixes, suffixes and replacement of single characters.

Does not own: character classes and the grammars of formats.
-/

namespace ReleaseRules.Text

/-- The pieces between separators; there is always at least one. -/
def splitAt (separator : Char) : List Char → List (List Char)
  | [] => [[]]
  | character :: rest =>
      if character = separator then [] :: splitAt separator rest
      else
        match splitAt separator rest with
        | [] => [[character]]
        | piece :: pieces => (character :: piece) :: pieces

/-- The pieces with a separator between them. -/
def join (separator : List Char) : List (List Char) → List Char
  | [] => []
  | [piece] => piece
  | piece :: rest => piece ++ separator ++ join separator rest

/-- The rest of the text after a prefix. -/
def stripPrefix? : List Char → List Char → Option (List Char)
  | [], text => some text
  | _ :: _, [] => none
  | first :: others, character :: rest =>
      if first = character then stripPrefix? others rest else none

/-- The text before a suffix. -/
def stripSuffix? (suffix text : List Char) : Option (List Char) :=
  (stripPrefix? suffix.reverse text.reverse).map List.reverse

/-- Whether a text starts with another. -/
def startsWith (start text : List Char) : Bool := (stripPrefix? start text).isSome

/-- Put one character in the place of another. -/
def replace (old new : Char) (text : List Char) : List Char :=
  text.map fun character => if character = old then new else character

/-- The text without a character at either end. -/
def trimCharacter (character : Char) (text : List Char) : List Char :=
  ((text.dropWhile (· = character)).reverse.dropWhile (· = character)).reverse

end ReleaseRules.Text
