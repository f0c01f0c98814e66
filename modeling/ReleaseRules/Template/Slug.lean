import ReleaseRules.Text.Pieces
import ReleaseRules.Unicode.LetterCase

/-!
Contract: slugs, the reduced form of names.

Owns: the alphabet of slugs and the reduction to it.

Does not own: the calls in templates that ask for a slug.
-/

namespace ReleaseRules.Template

/-- Characters that a slug keeps. -/
def isSlugCharacter (character : Char) : Bool :=
  ('a' ≤ character && character ≤ 'z') || ('A' ≤ character && character ≤ 'Z') ||
    ('0' ≤ character && character ≤ '9') ||
    character = '.' || character = '_' || character = '-'

/-- Keep slug characters and squash every run of others into one dash. `dashed` tells whether
the last character written is a dash. -/
def squash (dashed : Bool) : List Char → List Char
  | [] => []
  | character :: rest =>
      if isSlugCharacter character then character :: squash (character = '-') rest
      else if dashed then squash true rest
      else '-' :: squash true rest

/-- Slug of a text: lower-cased character by character, squashed, without dashes at the
ends. -/
def slug (text : List Char) : List Char :=
  Text.trimCharacter '-' (squash false (text.flatMap Unicode.lowerChar))

end ReleaseRules.Template
