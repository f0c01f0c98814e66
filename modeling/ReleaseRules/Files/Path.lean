import ReleaseRules.Text.Pieces

/-!
Contract: file paths as texts.

Owns:
- the components of a path and the name, extension and parent that they give;
- joining paths and taking a leading path away.

Does not own: what exists at a path.
-/

namespace ReleaseRules.Path

/-- Component of a path. The current directory is one only at the start. -/
inductive Component where
  | root
  | current
  | parent
  | normal (name : List Char)
deriving DecidableEq, Repr

/-- The texts between the slashes of a path. -/
def pieces (path : List Char) : List (List Char) := Text.splitAt '/' path

/-- Whether a piece leads nowhere: an empty one or a dot. -/
def isIdle (piece : List Char) : Bool := piece.isEmpty || piece == ['.']

/-- The component of a piece behind the start of a path. -/
def Component.ofPiece? (piece : List Char) : Option Component :=
  if isIdle piece then none
  else if piece = ['.', '.'] then some .parent
  else some (.normal piece)

/-- Whether a path starts at the root. -/
def isAbsolute : List Char → Bool
  | '/' :: _ => true
  | _ => false

/-- The components of a path. -/
def components (path : List Char) : List Component :=
  match pieces path with
  | [] => []
  | first :: rest =>
      let start :=
        if isAbsolute path then some Component.root
        else if first = ['.'] then some .current
        else Component.ofPiece? first
      start.toList ++ rest.filterMap Component.ofPiece?

/-- The text of a component. -/
def Component.text : Component → List Char
  | .root => []
  | .current => ['.']
  | .parent => ['.', '.']
  | .normal name => name

/-- The path of components. -/
def ofComponents : List Component → List Char
  | [.root] => ['/']
  | components => Text.join ['/'] (components.map Component.text)

/-- The name at the end of a path. -/
def fileName? (path : List Char) : Option (List Char) :=
  match (components path).getLast? with
  | some (.normal name) => some name
  | _ => none

/-- The text behind the last dot of the name, if the name has something in front of it. -/
def extension? (path : List Char) : Option (List Char) :=
  (fileName? path).bind fun name =>
    let ending := name.reverse.takeWhile (· != '.')
    if ending.length + 1 < name.length then some ending.reverse else none

/-- The path without its last component. -/
def parent? (path : List Char) : Option (List Char) :=
  match (components path).getLast? with
  | none => none
  | some .root => none
  | some _ => some (ofComponents (components path).dropLast)

/-- A path seen from another one. An absolute path takes the place of the other. -/
def join (base path : List Char) : List Char :=
  if isAbsolute path then path
  else if base.isEmpty || base.getLast? == some '/' then base ++ path
  else base ++ '/' :: path

/-- The pieces without idle ones at the end. -/
def withoutIdleEnd (pieces : List (List Char)) : List (List Char) :=
  (pieces.reverse.dropWhile isIdle).reverse

/-- Take components away from the pieces of a path; each is the first piece that leads
somewhere. -/
def dropPieces : Nat → List (List Char) → List (List Char)
  | 0, pieces => pieces
  | count + 1, pieces => dropPieces count ((pieces.dropWhile isIdle).drop 1)

/-- The rest of a path behind a leading path, as it is written, but without idle pieces at its
ends. -/
def stripPrefix? (base path : List Char) : Option (List Char) :=
  let leading := components base
  if leading.isPrefixOf (components path) then
    match leading, pieces path with
    | _ :: more, _ :: rest =>
        some (Text.join ['/'] (withoutIdleEnd ((dropPieces more.length rest).dropWhile isIdle)))
    | _, first :: rest => some (Text.join ['/'] (first :: withoutIdleEnd rest))
    | _, [] => some []
  else none

end ReleaseRules.Path
