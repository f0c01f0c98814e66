import ReleaseRules.Files.World
import ReleaseRules.Rules.File

/-!
Contract: the settings of a project.

Owns:
- the settings, their defaults and the rules embedded in them;
- loading them from a file.

Does not own: rule files.
-/

namespace ReleaseRules

/-- Settings of a project. -/
structure Settings where
  logLevel : String
  rulesVariable : String
  rules : List Rule
  preserve : List PreserveEntry
deriving Repr, Inhabited

namespace Settings

/-- The name of the settings file of a project. -/
def fileName : List Char := "synckeep.toml".toList

/-- The environment variable that names one more rule file, unless the settings name another
variable. -/
def defaultVariable : String := "SYNCKEEP_RULES"

/-- Settings of a project without a settings file. -/
def default : Settings := ⟨"info", defaultVariable, [], []⟩

/-- Reasons for which settings are not loaded. -/
inductive LoadError where
  | unreadable (path : List Char)
  | malformed (path : List Char)
deriving DecidableEq, Repr

/-- Message of settings that are not loaded. -/
def LoadError.message : LoadError → String
  | .unreadable path => "Failed to read config from " ++ String.ofList path
  | .malformed path => "Failed to parse config from " ++ String.ofList path

/-- Read the general settings: the log level and the name of the variable. -/
def general? (source : Datum) : Option (String × String) := do
  match ← Reading.slots? [["log_level"], ["rules_env_var"]]
      (← Dialect.toml.fields? source) with
  | [logLevel, variableName] =>
      return (← Reading.withDefault default.logLevel Dialect.toml.text? logLevel,
        ← Reading.withDefault default.rulesVariable Dialect.toml.text? variableName)
  | _ => none

/-- Read settings from the data of a settings file. -/
def ofDatum? (source : Datum) : Option Settings := do
  match ← Reading.slots? [["general"], ["rule"], ["preserve"]]
      (← Dialect.toml.fields? source) with
  | [general, rules, preserve] =>
      let (logLevel, variableName) ←
        Reading.withDefault (default.logLevel, default.rulesVariable) general? general
      return {
        logLevel := logLevel
        rulesVariable := variableName
        rules := ← Reading.withDefault []
          (Reading.list? Dialect.toml (Reading.rule? Dialect.toml)) rules
        preserve := ← Reading.withDefault []
          (Reading.list? Dialect.toml (Reading.preserveEntry? Dialect.toml)) preserve }
  | _ => none

/-- Load settings from the file at a path. A missing file gives the defaults. -/
def load (world : World) (path : List Char) : Except LoadError Settings :=
  if !world.contains path then .ok default
  else
    match world.read? path with
    | none => .error (.unreadable path)
    | some text =>
        match (Toml.readDatum text).toOption.bind ofDatum? with
        | some settings => .ok settings
        | none => .error (.malformed path)

/-- The rules embedded in the settings: their rules, and then the rules of their entries. -/
def allRules (settings : Settings) : List Rule :=
  settings.rules ++ settings.preserve.map PreserveEntry.rule

end Settings

end ReleaseRules
