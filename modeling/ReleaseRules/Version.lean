import ReleaseRules.Number.Literal
import ReleaseRules.Number.Shortest
import ReleaseRules.Text.Pieces
import ReleaseRules.Unicode.CharacterClass

/-!
Contract: release versions and the strategies that compare them.

Owns:
- versions of one to three numeric components, read with an optional `v`;
- their order and their text;
- the strategies that decide whether a version may take the place of another.

Does not own: where the versions of a comparison come from.
-/

namespace ReleaseRules

open Unicode (trim)

/-- A version `major.minor.patch`. -/
structure Version where
  major : Nat
  minor : Nat
  patch : Nat
deriving DecidableEq, Repr

namespace Version

/-- Bound of the components. -/
def componentBound : Nat := 18446744073709551616

/-- The text without one leading `v` of either case. -/
def withoutMark : List Char → List Char
  | 'v' :: rest => rest
  | 'V' :: rest => rest
  | text => text

/-- A component: a non-empty run of ASCII digits below the bound. -/
def component? (piece : List Char) : Option Nat :=
  match Number.natural? 10 piece with
  | some value => if value < componentBound then some value else none
  | none => none

/-- The components of all pieces. -/
def components? : List (List Char) → Option (List Nat)
  | [] => some []
  | piece :: rest => do
      let first ← component? piece
      let others ← components? rest
      return first :: others

/-- The version of one to three components; missing ones are zero. -/
def ofComponents? : List Nat → Option Version
  | [major] => some ⟨major, 0, 0⟩
  | [major, minor] => some ⟨major, minor, 0⟩
  | [major, minor, patch] => some ⟨major, minor, patch⟩
  | _ => none

/-- Read a version. White space around it and one leading `v` are allowed. -/
def parse? (text : List Char) : Option Version :=
  (components? (Text.splitAt '.' (withoutMark (trim text)))).bind ofComponents?

/-- The text of a version: always three components. -/
def text (version : Version) : List Char :=
  Number.digitsOf version.major ++ '.' :: (Number.digitsOf version.minor ++
    '.' :: Number.digitsOf version.patch)

/-- Order by component, the major one first. -/
def compare (left right : Version) : Ordering :=
  (Ord.compare left.major right.major).then
    ((Ord.compare left.minor right.minor).then (Ord.compare left.patch right.patch))

/-- Order of two texts, if both are versions. -/
def compareTexts? (left right : List Char) : Option Ordering := do
  let left ← parse? left
  let right ← parse? right
  return left.compare right

end Version

/-- Whether a version-bearing text may be overwritten. -/
inductive Strategy where
  | always
  | never
  | ifNewer
  | ifNewerOrEqual
deriving DecidableEq, Repr, Inhabited

namespace Strategy

/-- The name under which a strategy is written. -/
def name : Strategy → String
  | .always => "always"
  | .never => "never"
  | .ifNewer => "replace_if_newer"
  | .ifNewerOrEqual => "replace_if_newer_or_equal"

/-- The strategy of a name; two of them have a second name. -/
def ofName? : String → Option Strategy
  | "always" => some .always
  | "never" => some .never
  | "replace_if_newer" => some .ifNewer
  | "greater_than" => some .ifNewer
  | "replace_if_newer_or_equal" => some .ifNewerOrEqual
  | "greater_or_equal" => some .ifNewerOrEqual
  | _ => none

/-- All strategies in the order of their numbers. -/
def inOrder : List Strategy := [.always, .never, .ifNewer, .ifNewerOrEqual]

/-- Whether `candidate` may take the place of `current`. Texts that are not versions never
allow a comparing strategy. -/
def allows (strategy : Strategy) (current candidate : List Char) : Bool :=
  match strategy with
  | .always => true
  | .never => false
  | .ifNewer => Version.compareTexts? candidate current == some .gt
  | .ifNewerOrEqual =>
      match Version.compareTexts? candidate current with
      | some .gt => true
      | some .eq => true
      | _ => false

end Strategy

end ReleaseRules
