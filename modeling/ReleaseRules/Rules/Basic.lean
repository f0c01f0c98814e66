import ReleaseRules.Rules.Action
import ReleaseRules.Rules.Condition
import ReleaseRules.Rules.VersionPattern

/-!
Contract: rules, and the short form of rules that keep fields in step with the release.

Owns:
- rules: the files they are about, their conditions and their actions;
- entries that keep fields and texts, and the rules that they stand for.

Does not own: how rules are written and what their actions do.
-/

namespace ReleaseRules

/-- Rule. All conditions have to hold, and the actions are applied in order. A rule that stops
keeps the ones after it from files that it has changed. -/
structure Rule where
  name : String
  description : Option String
  enabled : Bool
  targetFiles : List String
  conditions : List Condition
  actions : List Action
  stops : Bool
deriving Repr, Inhabited

namespace Rule

/-- An enabled rule without conditions. -/
def new (name : String) (targetFiles : List String) (actions : List Action) : Rule :=
  ⟨name, none, true, targetFiles, [], actions, false⟩

/-- The rule with one more condition. -/
def when (rule : Rule) (condition : Condition) : Rule :=
  { rule with conditions := rule.conditions ++ [condition] }

end Rule

/-- Field that is kept in step with the release: by a value of its own, or by the version that
a pattern finds in its value. -/
structure KeptField where
  key : String
  pattern : Option String
  value : Option Tree
  strategy : Strategy
deriving Repr, Inhabited

/-- Text that is kept in step with the release. -/
structure KeptText where
  pattern : String
  replacement : String
  strategy : Strategy
deriving DecidableEq, Repr, Inhabited

/-- Entry that keeps fields and texts of files. -/
structure PreserveEntry where
  name : Option String
  enabled : Bool
  files : List String
  fields : List KeptField
  texts : List KeptText
deriving Repr, Inhabited

/-- The action of a field; a field that is never replaced has none. -/
def KeptField.action? (field : KeptField) : Option Action :=
  if field.strategy = .never then none
  else
    match field.value with
    | some value => some (.replaceValue field.key value)
    | none =>
        some (.updateVersion field.key (field.pattern.getD VersionPattern.anywhere)
          .tagWithoutMark (some field.strategy))

/-- The action of a text; a text that is never replaced has none. -/
def KeptText.action? (kept : KeptText) : Option Action :=
  match kept.strategy with
  | .never => none
  | .always => some (.replaceText kept.pattern kept.replacement none)
  | strategy =>
      some (.replaceText kept.pattern kept.replacement
        (some ⟨VersionPattern.versionGroup, strategy, .tagWithoutMark⟩))

/-- The rule of an entry. Without a name of its own it is named for its first file pattern. -/
def PreserveEntry.rule (entry : PreserveEntry) : Rule :=
  { name := entry.name.getD ("preserve:" ++ entry.files.head?.getD "*")
    description := none
    enabled := entry.enabled
    targetFiles := entry.files
    conditions := []
    actions :=
      entry.fields.filterMap KeptField.action? ++ entry.texts.filterMap KeptText.action?
    stops := false }

end ReleaseRules
