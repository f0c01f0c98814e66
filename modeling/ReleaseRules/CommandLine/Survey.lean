import ReleaseRules.CommandLine.Response

/-!
Contract: what has to be known of the world before a command is carried out.

Owns:
- the variables and paths that a command looks at, as far as what is already known tells;
- the leading parts of a path, which decide whether the path leads anywhere.

Does not own: finding out about them.

The settings name a variable, the value of the variable names further ones, all of them lead to a
rule file, and its rules name files that have to exist. So a few surveys in a row, each in the
world that the one before has found, leave nothing open.
-/

namespace ReleaseRules.CommandLine

/-- What a command looks at: variables, files whose text it reads, directories whose files it
reads, and paths of which it only asks whether something is there. -/
structure Survey where
  variableNames : List String
  texts : List (List Char)
  directories : List (List Char)
  existing : List (List Char)
deriving Repr

namespace Survey

/-- How many surveys in a row leave nothing open: one finds the settings, one the variable, one
the further variables, one the rule file, and one the files that have to exist. -/
def rounds : Nat := 5

/-- Variables that every command looks at. -/
def fixedVariables : List String := ["HOME", "XDG_CONFIG_HOME"]

/-- The files of sources, and the variables that lead to them. -/
def ofSources (world : World) (sources : RuleSources) : Survey :=
  let value := sources.environmentName.bind (RuleSources.namedValue? world)
  { variableNames :=
      fixedVariables ++ sources.environmentName.toList ++
        value.toList.flatMap (Path.variableNames world)
    texts :=
      sources.global.toList ++ sources.project.toList ++ sources.settings.toList ++
        value.toList.map (Path.expand world)
    directories := []
    existing := [] }

/-- The paths that the conditions of a rule ask for, seen from a directory. -/
def pathsOfRule (base : List Char) (rule : Rule) : List (List Char) :=
  rule.conditions.filterMap fun condition =>
    match condition with
    | .fileExists (some path) => some (Path.join base path.toList)
    | _ => none

/-- The directories that files are in, each once. -/
def basesOf (files : List (List Char)) : List (List Char) :=
  (files.map fun file => (Path.parent? file).getD []).eraseDups

/-- What a request to run rules looks at besides the sources. -/
def ofRequest (world : World) (rules : List Rule) (request : RunRequest) : Survey :=
  { variableNames := []
    texts := request.paths
    directories := request.paths
    existing :=
      (basesOf (inputs world request.paths)).flatMap fun base =>
        rules.flatMap (pathsOfRule base) }

/-- Two surveys as one. -/
def append (first second : Survey) : Survey :=
  { variableNames := first.variableNames ++ second.variableNames
    texts := first.texts ++ second.texts
    directories := first.directories ++ second.directories
    existing := first.existing ++ second.existing }

/-- What a command looks at. -/
def ofInvocation (world : World) (invocation : Invocation) : Survey :=
  match Settings.load world invocation.settingsFile with
  | .error _ => { variableNames := [], texts := [], directories := [], existing := [] }
  | .ok settings =>
      let sources := ofSources world (invocation.sources world settings)
      match invocation.command with
      | .run request =>
          sources.append (ofRequest world (invocation.rules world settings) request)
      | _ => sources

/-- The leading parts of a path, the shortest first and the path itself last. -/
def leadingParts (path : List Char) : List (List Char) :=
  let pieces := Path.pieces path
  ((List.range pieces.length).map fun count =>
    Text.join ['/'] (pieces.take (count + 1))).filter fun part => !part.isEmpty

end Survey

end ReleaseRules.CommandLine
