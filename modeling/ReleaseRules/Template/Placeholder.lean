import ReleaseRules.Document.Tree
import ReleaseRules.Unicode.CharacterClass

/-!
Contract: placeholders in templates.

Owns:
- variables, by name in order of their first insertion;
- the two forms of placeholders and the pieces of a template;
- substitution of placeholders by the values of variables.

Does not own: calls of functions.
-/

namespace ReleaseRules.Template

open Unicode (isBlank)

/-- Named values in order of first insertion. -/
abbrev Variables := List (String × String)

/-- Whether a character can start a name. -/
def isNameStart (character : Char) : Bool :=
  ('a' ≤ character && character ≤ 'z') || ('A' ≤ character && character ≤ 'Z') ||
    character = '_'

/-- Whether a character can follow in a name. -/
def isNamePart (character : Char) : Bool :=
  isNameStart character || ('0' ≤ character && character ≤ '9')

/-- A name at the start of a text, with the text after it. -/
def name? : List Char → Option (List Char × List Char)
  | [] => none
  | first :: rest =>
      if isNameStart first then
        some (first :: rest.takeWhile isNamePart, rest.dropWhile isNamePart)
      else none

/-- A name between doubled braces, with white space around it allowed; the text starts after
the opening braces. -/
def afterDoubleBrace? (text : List Char) : Option (List Char × List Char) :=
  match name? (text.dropWhile isBlank) with
  | none => none
  | some (name, rest) =>
      match rest.dropWhile isBlank with
      | '\x7d' :: '\x7d' :: after => some (name, after)
      | _ => none

/-- A name between single braces; the text starts after the opening brace. -/
def afterSingleBrace? (text : List Char) : Option (List Char × List Char) :=
  match name? text with
  | some (name, '\x7d' :: after) => some (name, after)
  | _ => none

/-- A placeholder at the start of a text, with the text after it. Doubled braces are tried
first. -/
def placeholder? (text : List Char) : Option (List Char × List Char) :=
  match text with
  | '\x7b' :: '\x7b' :: rest =>
      match afterDoubleBrace? rest with
      | some found => some found
      | none => afterSingleBrace? ('\x7b' :: rest)
  | '\x7b' :: rest => afterSingleBrace? rest
  | _ => none

/-- Piece of a template: a character of its own or a placeholder, as written. -/
inductive Piece where
  | literal (character : Char)
  | placeholder (name : String) (source : List Char)
deriving DecidableEq, Repr

/-- The pieces of a template. `skip` characters belong to the last placeholder. -/
def piecesFrom (skip : Nat) : List Char → List Piece
  | [] => []
  | character :: rest =>
      match skip with
      | more + 1 => piecesFrom more rest
      | 0 =>
          match placeholder? (character :: rest) with
          | some (name, after) =>
              let length := rest.length - after.length
              .placeholder (String.ofList name) (character :: rest.take length) ::
                piecesFrom length rest
          | none => .literal character :: piecesFrom 0 rest

/-- The pieces of a template. -/
def pieces (template : List Char) : List Piece := piecesFrom 0 template

/-- The text of a piece under variables. An unknown name leaves the placeholder as written. -/
def Piece.substituted (bindings : Variables) : Piece → List Char
  | .literal character => [character]
  | .placeholder name source =>
      match Tree.lookup name bindings with
      | some value => value.toList
      | none => source

/-- Put the values of variables in the place of their placeholders. -/
def substitute (template : List Char) (bindings : Variables) : List Char :=
  (pieces template).flatMap (Piece.substituted bindings)

end ReleaseRules.Template
