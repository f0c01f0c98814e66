import ReleaseRules.Document.Tree
import ReleaseRules.Files.Path

/-!
Contract: the files, directories and environment variables that a run can see.

Owns:
- what exists at a path, seen from the working directory or from the root;
- reading, writing and removing files;
- the values of environment variables.

Does not own: how a world is found out.
-/

namespace ReleaseRules

/-- What a file holds. -/
inductive FileContent where
  | text (value : List Char)
  | notText
deriving DecidableEq, Repr, Inhabited

/-- Files and directories by their names from the root on, the names of the working directory,
and variables. Every directory but the root is listed. -/
structure World where
  workingDirectory : List String
  files : List (List String × FileContent)
  directories : List (List String)
  environment : List (String × String)
deriving Repr, Inhabited

namespace World

/-- What exists at a path. -/
inductive Entry where
  | file (names : List String) (content : FileContent)
  | directory (names : List String)
deriving Repr

/-- The entry with the given names. -/
def entryAt (world : World) (names : List String) : Option Entry :=
  match world.files.lookup names with
  | some content => some (.file names content)
  | none =>
      if names.isEmpty || world.directories.contains names then some (.directory names)
      else none

/-- The entry that a piece of a path leads to. Nothing follows behind a file, and the root is
above itself. -/
def enter (world : World) (entry : Entry) (piece : List Char) : Option Entry :=
  match entry with
  | .file _ _ => none
  | .directory names =>
      if Path.isIdle piece then some entry
      else if piece = ['.', '.'] then some (.directory names.dropLast)
      else world.entryAt (names ++ [String.ofList piece])

/-- The entry that pieces of a path lead to, one after the other. -/
def follow (world : World) : Entry → List (List Char) → Option Entry
  | entry, [] => some entry
  | entry, piece :: rest =>
      match world.enter entry piece with
      | some next => follow world next rest
      | none => none

/-- The names of the directory that a path starts from. -/
def startOf (world : World) (path : List Char) : List String :=
  if Path.isAbsolute path then [] else world.workingDirectory

/-- The entry at a path. There is none at the empty path. -/
def find (world : World) (path : List Char) : Option Entry :=
  if path.isEmpty then none
  else world.follow (.directory (world.startOf path)) (Path.pieces path)

/-- Whether something exists at a path. -/
def contains (world : World) (path : List Char) : Bool := (world.find path).isSome

/-- Whether there is a directory at a path. -/
def isDirectory (world : World) (path : List Char) : Bool :=
  match world.find path with
  | some (.directory _) => true
  | _ => false

/-- The text of the file at a path; nothing if there is no file or it holds no text. -/
def read? (world : World) (path : List Char) : Option (List Char) :=
  match world.find path with
  | some (.file _ (.text value)) => some value
  | _ => none

/-- The names that a path leads to if all directories on the way exist. -/
def namesOf (world : World) (path : List Char) : List String :=
  (Path.components path).foldl
    (fun names component =>
      match component with
      | .normal name => names ++ [String.ofList name]
      | .parent => names.dropLast
      | _ => names)
    (world.startOf path)

/-- The lists that are left when names are dropped from the end, the longest first; the empty
one is left out. -/
def above (names : List String) : List (List String) :=
  ((List.range names.length).drop 1).reverse.map fun count => names.take count

/-- The world with a directory and the ones above it. -/
def addDirectory (world : World) (names : List String) : World :=
  { world with
    directories :=
      ((names :: above names).filter fun names => !names.isEmpty) ++ world.directories }

/-- A world with nothing in it but the working directory. -/
def empty (workingDirectory : List String) (environment : List (String × String)) : World :=
  addDirectory ⟨workingDirectory, [], [], environment⟩ workingDirectory

/-- The world with a file in the place of its old content. -/
def put (world : World) (names : List String) (content : FileContent) : World :=
  let rest := world.files.filter fun file => file.1 != names
  { world.addDirectory names.dropLast with files := (names, content) :: rest }

/-- The world with a text in the file at a path; directories on the way are made. -/
def write (world : World) (path text : List Char) : World :=
  match world.find path with
  | some (.file names _) => world.put names (.text text)
  | _ => world.put (world.namesOf path) (.text text)

/-- The world without the file at a path. -/
def remove (world : World) (path : List Char) : World :=
  match world.find path with
  | some (.file names _) =>
      { world with files := world.files.filter fun file => file.1 != names }
  | _ => world

/-- The paths of the files in the directory at a path, in the order of their names. -/
def filesIn (world : World) (path : List Char) : List (List Char) :=
  match world.find path with
  | some (.directory names) =>
      let inside := world.files.filterMap fun file =>
        if file.1.dropLast = names ∧ file.1 ≠ [] then file.1.getLast? else none
      (inside.mergeSort fun left right => !(right < left)).map fun name =>
        Path.join path name.toList
  | _ => []

/-- The value of an environment variable. -/
def variableValue? (world : World) (name : String) : Option String :=
  Tree.lookup name world.environment

/-- The world with a variable set. -/
def setVariable (world : World) (name value : String) : World :=
  { world with environment := Tree.insert name value world.environment }

/-- The world with a variable unset. -/
def unsetVariable (world : World) (name : String) : World :=
  { world with environment := world.environment.filter fun entry => entry.1 != name }

/-- The home directory. -/
def home? (world : World) : Option (List Char) :=
  (world.variableValue? "HOME").bind fun value =>
    if value.isEmpty then none else some value.toList

/-- The directory of settings: the one of the environment if it is absolute, else one in the
home directory. -/
def settingsDirectory? (world : World) : Option (List Char) :=
  match world.variableValue? "XDG_CONFIG_HOME" with
  | some value =>
      if Path.isAbsolute value.toList then some value.toList
      else world.home?.map fun home => Path.join home ".config".toList
  | none => world.home?.map fun home => Path.join home ".config".toList

end World

end ReleaseRules
