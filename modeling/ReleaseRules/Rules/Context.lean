import ReleaseRules.Template.Placeholder
import ReleaseRules.Version

/-!
Contract: what rules know about the release and the file that they are applied to.

Owns: the context and the variables that templates see.

Does not own: the text of the file.
-/

namespace ReleaseRules

/-- Context of one run over one file. `extras` are the caller's own variables. -/
structure Context where
  tag : String
  date : String
  extras : Template.Variables
  dryRun : Bool
  baseDirectory : Option (List Char)
deriving Repr, Inhabited

namespace Context

/-- The tag without one leading `v` of either case. -/
def tagWithoutMark (context : Context) : String :=
  String.ofList (Version.withoutMark context.tag.toList)

/-- The variables that every context has. -/
def builtIns (context : Context) : Template.Variables :=
  [("tag", context.tag), ("tag_without_v", context.tagWithoutMark),
    ("version", context.tagWithoutMark), ("date", context.date)]

/-- The variables of a context. The caller's own ones win and keep the place of those that
they replace. -/
def bindings (context : Context) : Template.Variables :=
  Tree.collect (context.builtIns ++ context.extras)

end Context

end ReleaseRules
