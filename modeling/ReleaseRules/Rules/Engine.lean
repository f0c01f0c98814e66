import ReleaseRules.Files.Glob
import ReleaseRules.Rules.Basic
import ReleaseRules.Rules.Edit

/-!
Contract: applying rules to one file.

Owns:
- which rules are about a file;
- the order in which rules and actions are applied, and when it stops;
- the outcome of a run.

Does not own: reading and writing files.
-/

namespace ReleaseRules

/-- Outcome of a run over one file. -/
structure Transformation where
  changed : Bool
  text : List Char
  appliedRules : List String
  changes : List Change
deriving DecidableEq, Repr, Inhabited

namespace Rule

/-- Whether a rule is about a file. -/
def isAbout (rule : Rule) (path : List Char) : Bool :=
  rule.enabled && Glob.matchesAny path rule.targetFiles

/-- Whether all conditions of a rule hold for a text. -/
def isMet (rule : Rule) (world : World) (context : Context) (text : List Char) : Bool :=
  rule.conditions.all fun condition => condition.holds world context text

/-- Apply actions in order, each to the text that the one before has left. -/
def applyActions (name : String) (context : Context) :
    List Action → List Char → List Char × List Change
  | [], text => (text, [])
  | action :: rest, text =>
      match action.apply name context text with
      | none => applyActions name context rest text
      | some (next, change) =>
          let (final, changes) := applyActions name context rest next
          (final, change :: changes)

end Rule

namespace Engine

/-- The rules that are about a file, in order. -/
def matchingRules (rules : List Rule) (path : List Char) : List Rule :=
  rules.filter fun rule => rule.isAbout path

/-- Apply rules in order: the text that is left, the names of the rules that have changed it,
and all changes. -/
def applyRules (world : World) (context : Context) :
    List Rule → List Char → List Char × List String × List Change
  | [], text => (text, [], [])
  | rule :: rest, text =>
      if rule.isMet world context text then
        let (next, changes) := Rule.applyActions rule.name context rule.actions text
        if changes.isEmpty then applyRules world context rest next
        else if rule.stops then (next, [rule.name], changes)
        else
          let (final, names, more) := applyRules world context rest next
          (final, rule.name :: names, changes ++ more)
      else applyRules world context rest text

/-- Run rules over a text. The path only decides which rules are about the file. -/
def process (world : World) (rules : List Rule) (path : List Char) (text : List Char)
    (context : Context) : Transformation :=
  let (final, names, changes) :=
    applyRules world context (matchingRules rules path) text
  ⟨final != text, final, names, changes⟩

/-- Run rules without the intention to keep the outcome. -/
def preview (world : World) (rules : List Rule) (path : List Char) (text : List Char)
    (context : Context) : Transformation :=
  process world rules path text { context with dryRun := true }

end Engine

end ReleaseRules
