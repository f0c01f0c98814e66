import ReleaseRules.Document.Tree
import ReleaseRules.Text.Pieces

/-!
Contract: dotted key paths over document trees.

Owns:
- the segments of a path;
- the value at a path, and writing a value there;
- the two reasons for which a write is refused.

Does not own: what is written, and when.
-/

namespace ReleaseRules.KeyPath

/-- Reasons for which a write is refused. -/
inductive WriteError where
  | emptyPath
  | conflict (path segment : String)
deriving DecidableEq, Repr

/-- Message of a refused write. -/
def WriteError.message : WriteError → String
  | .emptyPath => "Empty key path"
  | .conflict path segment =>
      "Cannot set '" ++ path ++ "': segment '" ++ segment ++ "' is not a map"

/-- The segments of a path: its pieces between dots without the empty ones. -/
def segments (path : String) : List String :=
  ((Text.splitAt '.' path.toList).filter fun piece => !piece.isEmpty).map String.ofList

/-- The value that segments lead to from a tree. -/
def follow : Tree → List String → Option Tree
  | tree, [] => some tree
  | .map entries, segment :: rest =>
      match Tree.lookup segment entries with
      | some next => follow next rest
      | none => none
  | _, _ :: _ => none

/-- The value at a path. A path without segments leads nowhere. -/
def get (tree : Tree) (path : String) : Option Tree :=
  match segments path with
  | [] => none
  | segment :: rest => follow tree (segment :: rest)

/-- The segment that cannot be written because the value it is to be written in is neither a
map nor null. -/
def blockedSegment : Tree → List String → Option String
  | _, [] => none
  | .null, _ :: _ => none
  | .map entries, segment :: rest =>
      match Tree.lookup segment entries with
      | some next => blockedSegment next rest
      | none => none
  | _, segment :: _ => some segment

/-- The entries of a map; anything else counts as a map without entries. -/
def entriesOf : Tree → List (String × Tree)
  | .map entries => entries
  | _ => []

/-- Write a value where segments lead, with new maps for missing and null ones. -/
def write (value : Tree) : Tree → List String → Tree
  | _, [] => value
  | tree, segment :: rest =>
      let entries := entriesOf tree
      let child := (Tree.lookup segment entries).getD (.map [])
      .map (Tree.insert segment (write value child rest) entries)

/-- Write a value at a path, or say why it cannot be. -/
def set (tree : Tree) (path : String) (value : Tree) : Except WriteError Tree :=
  match segments path with
  | [] => .error .emptyPath
  | segment :: rest =>
      match blockedSegment tree (segment :: rest) with
      | some blocked => .error (.conflict path blocked)
      | none => .ok (write value tree (segment :: rest))

end ReleaseRules.KeyPath
