import ReleaseRules.Files.Path
import ReleaseRules.Json.Reader
import ReleaseRules.Rules.Reading
import ReleaseRules.Toml.Reader
import ReleaseRules.Unicode.CharacterClass

/-!
Contract: rule files.

Owns:
- the three formats of rule files and the choice between them;
- the content of a rule file and the rules in it.

Does not own: where rule files are.
-/

namespace ReleaseRules

/-- Content of a rule file. -/
structure RuleFile where
  rules : List Rule
  preserve : List PreserveEntry
deriving Repr, Inhabited

/-- Format of a rule file. -/
inductive RuleFormat where
  | yaml
  | json
  | toml
deriving DecidableEq, Repr, Inhabited

namespace RuleFormat

/-- The name of a format. -/
def name : RuleFormat → String
  | .yaml => "YAML"
  | .json => "JSON"
  | .toml => "TOML"

/-- A character with an ASCII letter in lower case. -/
def lowerAscii (character : Char) : Char :=
  if 'A' ≤ character ∧ character ≤ 'Z' then Char.ofNat (character.toNat + 32) else character

/-- The format of the file at a path, by its extension. -/
def ofPath (path : List Char) : RuleFormat :=
  match (Path.extension? path).map fun ending => String.ofList (ending.map lowerAscii) with
  | some "json" => .json
  | some "toml" => .toml
  | _ => .yaml

end RuleFormat

namespace RuleFile

/-- A file without rules. -/
def empty : RuleFile := ⟨[], []⟩

/-- Read the content of a rule file in a dialect. -/
def ofSource? {Source : Type} (dialect : Dialect Source) (source : Source) :
    Option RuleFile := do
  match ← Reading.slots? [["rules", "rule"], ["preserve"]] (← dialect.fields? source) with
  | [rules, preserve] =>
      return {
        rules := ← Reading.withDefault []
          (Reading.list? dialect (Reading.rule? dialect)) rules
        preserve := ← Reading.withDefault []
          (Reading.list? dialect (Reading.preserveEntry? dialect)) preserve }
  | _ => none

/-- Read the text of a rule file in a format. -/
def readAs? (text : List Char) : RuleFormat → Option RuleFile
  | .json => (Json.readDatum text).toOption.bind (ofSource? .json)
  | .toml => (Toml.readDatum text).toOption.bind (ofSource? .toml)
  | .yaml => (Yaml.Content.read text).toOption.bind (ofSource? .yaml)

/-- Read the text of the rule file at a path. A text of white space holds no rules; a text that
cannot be read is reported with its format. -/
def read (path text : List Char) : Except RuleFormat RuleFile :=
  if (Unicode.trim text).isEmpty then .ok empty
  else
    match readAs? text (RuleFormat.ofPath path) with
    | some file => .ok file
    | none => .error (RuleFormat.ofPath path)

/-- All rules of a file: its rules, and then the rules of its entries. -/
def allRules (file : RuleFile) : List Rule :=
  file.rules ++ file.preserve.map PreserveEntry.rule

end RuleFile

end ReleaseRules
