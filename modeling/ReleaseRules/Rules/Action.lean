import ReleaseRules.Document.Tree
import ReleaseRules.Rules.Context
import ReleaseRules.Template.Expansion

/-!
Contract: the actions of rules.

Owns:
- the kinds of actions and their names;
- where replacement versions come from, and guards by version.

Does not own: what actions do to a text.
-/

namespace ReleaseRules

/-- Where a replacement version comes from: the tag, the tag without its mark, or a template
of its own. -/
inductive VersionSource where
  | tag
  | tagWithoutMark
  | literal (template : String)
deriving DecidableEq, Repr, Inhabited

/-- The version that a source gives. -/
def VersionSource.resolve (context : Context) : VersionSource → List Char
  | .tag => context.tag.toList
  | .tagWithoutMark => context.tagWithoutMark.toList
  | .literal template => Template.expand template.toList context.bindings

/-- Guard of a replacement: the group that holds the current version and the strategy that
compares it with the version of a source. -/
structure VersionGuard where
  group : String
  strategy : Strategy
  source : VersionSource
deriving DecidableEq, Repr, Inhabited

/-- Action on a file. -/
inductive Action where
  | updateVersion (key pattern : String) (source : VersionSource) (strategy : Option Strategy)
  | replaceValue (key : String) (value : Tree)
  | setIfAbsent (key : String) (value : Tree)
  | appendItem (key : String) (value : Tree)
  | replaceText (pattern replacement : String) (guard : Option VersionGuard)
  | unknown
deriving Repr, Inhabited

/-- The name of the kind of an action. -/
def Action.kind : Action → String
  | .updateVersion _ _ _ _ => "update_version_in_value"
  | .replaceValue _ _ => "replace_value"
  | .setIfAbsent _ _ => "set_value_if_absent"
  | .appendItem _ _ => "append_to_array"
  | .replaceText _ _ _ => "regex_replace"
  | .unknown => "unknown"

end ReleaseRules
