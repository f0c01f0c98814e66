import ReleaseRules.Files.World
import ReleaseRules.Template.Placeholder

/-!
Contract: references in paths: to the home directory and to environment variables.

Owns: the forms of references, their replacement, and the variables that they name.

Does not own: the values of variables.
-/

namespace ReleaseRules.Path

/-- The path with a leading tilde replaced by the home directory. -/
def withHome (world : World) (path : List Char) : List Char :=
  match path, world.home? with
  | ['~'], some home => home
  | '~' :: '/' :: rest, some home => join home rest
  | _, _ => path

/-- A reference at the start of a text: the name of a variable, between braces or bare, and
the text behind it. -/
def reference? (text : List Char) : Option (List Char × List Char) :=
  match text with
  | '$' :: '\x7b' :: rest =>
      match rest.dropWhile (· != '\x7d') with
      | _ :: after =>
          let name := rest.takeWhile (· != '\x7d')
          if name.isEmpty then none else some (name, after)
      | [] => none
  | '$' :: rest => Template.name? rest
  | _ => none

/-- Part of a path: a character, or a reference to a variable with the text that stands for
it. -/
inductive Part where
  | character (value : Char)
  | reference (name : String) (written : List Char)
deriving DecidableEq, Repr

/-- The parts of a path. `skip` characters belong to the last reference. -/
def readParts (skip : Nat) : List Char → List Part
  | [] => []
  | character :: rest =>
      match skip with
      | more + 1 => readParts more rest
      | 0 =>
          match reference? (character :: rest) with
          | none => .character character :: readParts 0 rest
          | some (name, after) =>
              let length := rest.length - after.length
              .reference (String.ofList name) (character :: rest.take length) ::
                readParts length rest

/-- The text of a part, with the value of the variable in the place of a reference; a reference
to a variable that is not set stays. -/
def Part.fill (world : World) : Part → List Char
  | .character value => [value]
  | .reference name written =>
      match world.variableValue? name with
      | some value => value.toList
      | none => written

/-- The name of the variable that a part refers to. -/
def Part.name? : Part → Option String
  | .character _ => none
  | .reference name _ => some name

/-- Expand the references in a path. -/
def expand (world : World) (path : List Char) : List Char :=
  (readParts 0 (withHome world path)).flatMap (Part.fill world)

/-- The names of the variables that a path refers to. -/
def variableNames (world : World) (path : List Char) : List String :=
  (readParts 0 (withHome world path)).filterMap Part.name?

end ReleaseRules.Path
