import ReleaseRules.Files.Reference
import ReleaseRules.Settings

/-!
Contract: where rules come from.

Owns:
- the sources of rules and the order in which they are read;
- the loader, which reads the sources once and then keeps the rules.

Does not own: the formats of the sources.
-/

namespace ReleaseRules

/-- Sources of rules: rule files of the user and of the project, the settings of the project,
and a variable that names one more rule file. -/
structure RuleSources where
  global : Option (List Char)
  project : Option (List Char)
  settings : Option (List Char)
  environmentName : Option String
deriving DecidableEq, Repr, Inhabited

namespace RuleSources

/-- The rule file of the user. -/
def globalPath? (world : World) : Option (List Char) :=
  world.settingsDirectory?.map fun directory =>
    Path.join (Path.join directory "synckeep".toList) "rules.yaml".toList

/-- The usual sources of a project. -/
def discover (world : World) (project : List Char) : RuleSources :=
  { global := globalPath? world
    project := some (Path.join (Path.join project ".synckeep".toList) "rules.yaml".toList)
    settings := some (Path.join project Settings.fileName)
    environmentName := some Settings.defaultVariable }

/-- The rules in the rule file at a path; a file that is missing or cannot be read has none. -/
def rulesInFile (world : World) (path : List Char) : List Rule :=
  match world.read? path with
  | none => []
  | some text =>
      match RuleFile.read path text with
      | .ok file => file.allRules
      | .error _ => []

/-- The rules in the settings file at a path. -/
def rulesInSettings (world : World) (path : List Char) : List Rule :=
  match Settings.load world path with
  | .ok settings => settings.allRules
  | .error _ => []

/-- The value of a variable without white space around it; nothing if it is not set or empty. -/
def namedValue? (world : World) (name : String) : Option (List Char) :=
  (world.variableValue? name).bind fun value =>
    let shown := Unicode.trim value.toList
    if shown.isEmpty then none else some shown

/-- The rules in the rule file that a variable names. -/
def rulesOfVariable (world : World) (name : String) : List Rule :=
  match namedValue? world name with
  | some value => rulesInFile world (Path.expand world value)
  | none => []

/-- The enabled rules of all sources, in the order of the sources. -/
def readAll (sources : RuleSources) (world : World) : List Rule :=
  ((sources.global.toList.flatMap (rulesInFile world)) ++
    (sources.project.toList.flatMap (rulesInFile world)) ++
    (sources.settings.toList.flatMap (rulesInSettings world)) ++
    (sources.environmentName.toList.flatMap (rulesOfVariable world))).filter Rule.enabled

end RuleSources

/-- Loader of rules: its sources and, once it has read them, the rules. -/
structure RuleLoader where
  sources : RuleSources
  kept : Option (List Rule)
deriving Repr, Inhabited

namespace RuleLoader

/-- A loader that has not read its sources. -/
def new (sources : RuleSources) : RuleLoader := ⟨sources, none⟩

/-- The rules of the sources as they were at the first load, and the loader that keeps them. -/
def load (loader : RuleLoader) (world : World) : List Rule × RuleLoader :=
  match loader.kept with
  | some rules => (rules, loader)
  | none =>
      let rules := loader.sources.readAll world
      (rules, { loader with kept := some rules })

/-- The loader without its rules, so that the next load reads the sources again. -/
def reset (loader : RuleLoader) : RuleLoader := { loader with kept := none }

end RuleLoader

end ReleaseRules
